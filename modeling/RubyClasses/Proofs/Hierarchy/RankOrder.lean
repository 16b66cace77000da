import Mathlib.Data.Finset.Order
import Mathlib.Tactic.Ring
import RubyClasses.Proofs.Hierarchy.Rounds
import RubyClasses.Proofs.Name.Order

/-! # Declaration order

The structs of a forest leave the queue by rank, and in the order of their names where the ranks
are equal. The queue needs as many turns as the ranks add up to, which are no more than the turns
it is given. Every struct is placed behind all structs it extends, also at a distance.
-/

namespace RubyClasses

open Relation

namespace Hierarchy

variable {line : List (Nat × Struct)} {rank : Nat → Nat}

/-- A struct comes before another by rank, and by its place in the line where the ranks are
equal. -/
def RanksBefore (line : List (Nat × Struct)) (rank : Nat → Nat) (i j : Nat) : Prop :=
  rank i < rank j ∨ rank i = rank j ∧ place line i < place line j

/-- Of two structs at most one comes before the other. -/
theorem RanksBefore.asymm {i j : Nat} (h : RanksBefore line rank i j) :
    ¬ RanksBefore line rank j i := by
  unfold RanksBefore at *
  omega

theorem RanksBefore.trans {i j k : Nat} (hij : RanksBefore line rank i j)
    (hjk : RanksBefore line rank j k) : RanksBefore line rank i k := by
  unfold RanksBefore at *
  omega

namespace IsRank

theorem pos (hforest : IsForest line) (hrank : IsRank line rank) :
    ∀ entry ∈ line, 1 ≤ rank entry.1 := by
  apply hforest.induction (motive := fun entry => 1 ≤ rank entry.1)
  · intro entry hmem hbase
    rw [hrank.root entry hmem hbase]
  · intro entry hmem found _ hbase ih
    by_cases hlt : place line found.1 < place line entry.1
    · rwa [hrank.baseAhead entry hmem _ hbase hlt]
    · rw [hrank.baseBehind entry hmem _ hbase hlt]
      omega

/-- No rank below that of a struct is left out: the structs it extends have all of them. -/
theorem exists_eq (hforest : IsForest line) (hrank : IsRank line rank) {t : Nat} (ht : 1 ≤ t) :
    ∀ entry ∈ line, t ≤ rank entry.1 → ∃ found ∈ line, rank found.1 = t := by
  refine hforest.induction
    (motive := fun entry => t ≤ rank entry.1 → ∃ found ∈ line, rank found.1 = t) ?_ ?_
  · intro entry hmem hbase hle
    rw [hrank.root entry hmem hbase] at hle
    exact ⟨entry, hmem, by rw [hrank.root entry hmem hbase]; omega⟩
  · intro entry hmem found _ hbase ih hle
    by_cases hlt : place line found.1 < place line entry.1
    · rw [hrank.baseAhead entry hmem _ hbase hlt] at hle
      exact ih hle
    · have heq := hrank.baseBehind entry hmem _ hbase hlt
      by_cases hbelow : t ≤ rank found.1
      · exact ih hbelow
      · exact ⟨entry, hmem, by omega⟩

/-- A base comes before its extension. -/
theorem base_before (hrank : IsRank line rank) {i j : Nat} (hextends : Extends line i j) :
    RanksBefore line rank j i := by
  obtain ⟨s, hmem, hbase⟩ := hextends
  by_cases hlt : place line j < place line i
  · exact .inr ⟨(hrank.baseAhead _ hmem j hbase hlt).symm, hlt⟩
  · have heq := hrank.baseBehind _ hmem j hbase hlt
    exact .inl (by simp only at heq; omega)

/-- All that a struct extends at a distance comes before it. -/
theorem transGen_before (hrank : IsRank line rank) {i j : Nat}
    (hextends : TransGen (Extends line) i j) : RanksBefore line rank j i := by
  induction hextends with
  | single h => exact hrank.base_before h
  | tail _ h ih => exact (hrank.base_before h).trans ih

/-- When every base stands ahead of its extensions, all ranks are one. -/
theorem eq_one (hforest : IsForest line) (hrank : IsRank line rank)
    (hahead : ∀ i j, Extends line i j → place line j < place line i) :
    ∀ entry ∈ line, rank entry.1 = 1 := by
  apply hforest.induction (motive := fun entry => rank entry.1 = 1) hrank.root
  · intro entry hmem found _ hbase ih
    rwa [hrank.baseAhead entry hmem _ hbase (hahead _ _ ⟨entry.2, hmem, hbase⟩)]

end IsRank

end Hierarchy

namespace Queue

open Hierarchy

variable {line : List (Nat × Struct)} {rank : Nat → Nat} {t : Nat}

theorem ranked_perm : (ranked line rank t).Perm (line.filter fun entry => rank entry.1 < t) := by
  induction t with
  | zero => simp [ranked]
  | succ t ih =>
      have hparts := List.filter_append_perm (fun entry => decide (rank entry.1 < t))
        (line.filter fun entry => rank entry.1 < t + 1)
      simp only [List.filter_filter] at hparts
      rw [ranked_succ]
      refine (ih.append_right _).trans (.trans (.of_eq ?_) hparts)
      congr 1 <;> refine List.filter_congr fun entry _ => ?_
      · simp only [← Bool.decide_and, decide_eq_decide]
        omega
      · simp only [← decide_not, ← Bool.decide_and, decide_eq_decide]
        omega

/-- The structs below some rank are ordered by rank and place. -/
theorem ranked_pairwise (hdistinct : (line.map Prod.fst).Nodup) :
    (ranked line rank t).Pairwise fun a b => RanksBefore line rank a.1 b.1 := by
  induction t with
  | zero => simp [ranked]
  | succ t ih =>
      rw [ranked_succ, List.pairwise_append]
      refine ⟨ih, ?_, ?_⟩
      · rw [List.pairwise_filter]
        apply (pairwise_place hdistinct).imp
        intro a b hplace ha hb
        simp only [decide_eq_true_eq] at ha hb
        exact .inr ⟨ha.trans hb.symm, hplace⟩
      · intro a ha b hb
        have hlt := (mem_ranked.mp ha).2
        have heq : rank b.1 = t := by simpa using (List.mem_filter.mp hb).2
        exact .inl (heq ▸ hlt)

/-- Every round places a struct, so the rounds get shorter and their turns have a bound. -/
theorem pending_le (hforest : IsForest line) (hrank : IsRank line rank) {count : Nat} (ht : 1 ≤ t)
    (hcount : (unplaced line rank t).length ≤ count) :
    pending line rank t ≤ enoughTurns count := by
  induction count generalizing t with
  | zero =>
      have hnone : unplaced line rank t = [] := List.length_eq_zero_iff.mp (by omega)
      rw [pending_eq_zero hnone]
      exact Nat.zero_le _
  | succ count ih =>
      by_cases hnone : unplaced line rank t = []
      · rw [pending_eq_zero hnone]
        exact Nat.zero_le _
      · obtain ⟨entry, hentry⟩ := List.exists_mem_of_ne_nil _ hnone
        simp only [unplaced, List.mem_filter, decide_eq_true_eq] at hentry
        obtain ⟨found, hfound, heq⟩ := hrank.exists_eq hforest ht entry hentry.1 hentry.2
        -- the round places `found`, so the next one is shorter
        have hshorter : (unplaced line rank (t + 1)).length < (unplaced line rank t).length := by
          rw [unplaced_succ, List.length_filter_lt_length_iff_exists]
          exact ⟨found, by simp [unplaced, hfound, heq], by simp [heq]⟩
        have hrest := ih (t := t + 1) (by omega) (by omega)
        have hsum : enoughTurns (count + 1) = enoughTurns count + (count + 1) := by
          have heven : (count + 1) * (count + 1 + 1) = count * (count + 1) + (count + 1) * 2 := by
            ring
          simp only [enoughTurns]
          omega
        rw [pending_succ, hsum]
        omega

variable {structs : List (Nat × Struct)}

/-- The structs of a queue in the line in which they wait. -/
def lineOf (structs : List (Nat × Struct)) : List (Nat × Struct) :=
  Name.sortBy (fun entry => entry.2.name) structs

theorem lineOf_perm : (lineOf structs).Perm structs := Name.sortBy_perm _ _

/-- The turns in which the structs of a forest leave the queue, and the order in which they do. -/
theorem exists_turns (hforest : IsForest structs) (hrank : IsRank (lineOf structs) rank) :
    ∃ order, Turns (structs.map fun entry => rank entry.1).sum (ofStructs structs) ⟨[], order⟩ ∧
      order.Perm structs ∧
      order.Pairwise fun a b => RanksBefore (lineOf structs) rank a.1 b.1 := by
  have hlined := hforest.of_perm lineOf_perm.symm
  have hpos := hrank.pos hlined
  obtain ⟨bound, hbound⟩ := ((lineOf structs).map fun entry => rank entry.1).toFinset.exists_le
  have hbelow : ∀ entry ∈ lineOf structs, rank entry.1 < 1 + (bound + 1) := by
    intro entry hmem
    have hle := hbound (rank entry.1) (by
      simp only [List.mem_toFinset, List.mem_map]
      exact ⟨entry, hmem, rfl⟩)
    omega
  -- all ranks are positive, so the first round starts with everything waiting
  have hturns := turns_of_round hlined hrank (bound + 1) le_rfl hbelow
  have hstart : inRound (lineOf structs) rank 1 [] (unplaced (lineOf structs) rank 1) =
      ofStructs structs := by
    have hall : unplaced (lineOf structs) rank 1 = lineOf structs := by
      simpa [unplaced, List.filter_eq_self] using hpos
    have hnone : ranked (lineOf structs) rank 1 = [] := by
      rw [List.eq_nil_iff_forall_not_mem]
      intro entry hmem
      obtain ⟨hline, hlt⟩ := mem_ranked.mp hmem
      have := hpos entry hline
      omega
    simp only [inRound, hall, hnone, List.filter_nil, List.append_nil]
    rfl
  have htotal : pending (lineOf structs) rank 1 = (structs.map fun entry => rank entry.1).sum := by
    simp only [pending, Nat.add_sub_cancel]
    exact (lineOf_perm.map _).sum_nat
  rw [hstart, htotal] at hturns
  refine ⟨_, hturns, ?_, ranked_pairwise hlined.distinct⟩
  refine ranked_perm.trans (.trans (.of_eq ?_) lineOf_perm)
  simpa [List.filter_eq_self] using hbelow

/-- The ranks of `n` structs add up to no more than the turns that the queue is given. -/
theorem sum_rank_le (hforest : IsForest structs) (hrank : IsRank (lineOf structs) rank) :
    (structs.map fun entry => rank entry.1).sum ≤ enoughTurns structs.length := by
  have hlined := hforest.of_perm lineOf_perm.symm
  have hlength : (unplaced (lineOf structs) rank 1).length ≤ structs.length :=
    (List.length_filter_le _ _).trans_eq lineOf_perm.length_eq
  have hle := pending_le hlined hrank le_rfl hlength
  simp only [pending, Nat.add_sub_cancel] at hle
  rwa [(lineOf_perm.map _).sum_nat] at hle

/-- What is ordered by rank has every struct behind those it extends. -/
theorem place_lt_of_extends (hforest : IsForest structs) (hrank : IsRank (lineOf structs) rank)
    {order : List (Nat × Struct)} (hperm : order.Perm structs)
    (horder : order.Pairwise fun a b => RanksBefore (lineOf structs) rank a.1 b.1) {i j : Nat}
    (hextends : TransGen (Extends structs) i j) : place order j < place order i := by
  have hmem : ∀ k, k ∈ structs.map Prod.fst → k ∈ order.map Prod.fst :=
    fun k => (hperm.map Prod.fst).mem_iff.mpr
  have hbefore : RanksBefore (lineOf structs) rank j i := hrank.transGen_before
    (TransGen.mono (fun _ _ => Extends.mono lineOf_perm.symm.subset) _ _ hextends)
  obtain ⟨hi, hj⟩ := hforest.mem_of_transGen hextends
  exact place_lt_of_pairwise horder (fun _ _ => RanksBefore.asymm) (hmem j hj) (hmem i hi) hbefore

/-- The loop ends after as many turns as the ranks add up to, and leaves the structs ordered by rank
and place. Bases are placed before all their extensions, and a line in which they stand ahead of
them anyway stays as it is. -/
theorem settles_by_rank (hforest : IsForest structs) :
    (∃ rank, IsRank (lineOf structs) rank) ∧
    ∀ rank, IsRank (lineOf structs) rank →
      let total := (structs.map fun entry => rank entry.1).sum
      total ≤ structs.length * (structs.length + 1) / 2 ∧
      (∀ turns, (turn^[turns] (ofStructs structs)).waiting = [] ↔ total ≤ turns) ∧
      ∃ order,
        (∀ limit, total ≤ limit → settle limit (ofStructs structs) = (total, ⟨[], order⟩)) ∧
        order.Perm structs ∧
        order.Pairwise (fun a b => RanksBefore (lineOf structs) rank a.1 b.1) ∧
        (∀ i j, TransGen (Extends structs) i j → place order j < place order i) ∧
        ((∀ i j, Extends structs i j → place (lineOf structs) j < place (lineOf structs) i) →
          order = lineOf structs) := by
  have hlined := hforest.of_perm lineOf_perm.symm
  refine ⟨hlined.exists_rank, ?_⟩
  intro rank hrank
  obtain ⟨order, hturns, hperm, hpairwise⟩ := exists_turns hforest hrank
  refine ⟨sum_rank_le hforest hrank, hturns.waiting_iterate_eq_nil_iff rfl, order,
    fun limit => hturns.settle_eq rfl, hperm, hpairwise,
    fun i j => place_lt_of_extends hforest hrank hperm hpairwise, ?_⟩
  intro hahead
  have hones := hrank.eq_one hlined (fun i j hextends =>
    hahead i j (Extends.mono lineOf_perm.subset hextends))
  have hline : (lineOf structs).Pairwise
      fun a b => RanksBefore (lineOf structs) rank a.1 b.1 := by
    apply (pairwise_place hlined.distinct).imp_of_mem
    intro a b ha hb hplace
    exact .inr ⟨(hones a ha).trans (hones b hb).symm, hplace⟩
  refine (hperm.trans lineOf_perm.symm).eq_of_pairwise ?_ hpairwise hline
  intro a b _ _ hab hba
  exact absurd hba hab.asymm

/-- A chain of four structs that crosses the line three times; two of them share a name. -/
def crossing : List (Nat × Struct) := [
  (0, ⟨⟨["b"]⟩, none, [], []⟩),
  (1, ⟨⟨["a"]⟩, some (.declared 0), [], []⟩),
  (2, ⟨⟨["c"]⟩, some (.declared 1), [], []⟩),
  (3, ⟨⟨["a"]⟩, some (.declared 2), [], []⟩)]

theorem crossing_isForest : IsForest crossing where
  distinct := by decide
  closed := by decide
  acyclic := by
    apply acyclic_of_height id
    rintro i j ⟨s, hmem, hbase⟩
    simp only [crossing, List.mem_cons, Prod.mk.injEq, List.not_mem_nil, or_false] at hmem
    rcases hmem with ⟨rfl, rfl⟩ | ⟨rfl, rfl⟩ | ⟨rfl, rfl⟩ | ⟨rfl, rfl⟩ <;> cases hbase <;> decide

/-- The four structs wait in the order of their names. -/
theorem lineOf_crossing : (lineOf crossing).map Prod.fst = [1, 3, 0, 2] := by
  simp +decide [lineOf, Name.sortBy, crossing, List.mergeSort]

/-- The ranks in a chain that crosses the line three times. -/
def crossingRank (i : Nat) : Nat := [1, 2, 2, 3].getD i 0

theorem crossing_isRank : IsRank (lineOf crossing) crossingRank := by
  have hplace : ∀ i, place (lineOf crossing) i = [1, 3, 0, 2].idxOf i := by
    intro i
    rw [place, lineOf_crossing]
  refine ⟨?_, ?_, ?_⟩ <;> intro entry hmem <;>
    simp only [lineOf_perm.mem_iff, crossing, List.mem_cons, List.not_mem_nil, or_false] at hmem <;>
    rcases hmem with rfl | rfl | rfl | rfl <;>
    simp [hplace, crossingRank, List.idxOf_cons]

theorem settles_by_rank_crossing :
    IsForest crossing ∧ IsRank (lineOf crossing) crossingRank ∧
      ∃ order, settle 10 (ofStructs crossing) = (8, ⟨[], order⟩) ∧ order.Perm crossing ∧
        order.Pairwise (fun a b => RanksBefore (lineOf crossing) crossingRank a.1 b.1) := by
  obtain ⟨-, -, order, hsettle, hperm, horder, -⟩ :=
    (settles_by_rank crossing_isForest).2 crossingRank crossing_isRank
  exact ⟨crossing_isForest, crossing_isRank, order, hsettle 10 (by decide), hperm, horder⟩

end Queue

end RubyClasses
