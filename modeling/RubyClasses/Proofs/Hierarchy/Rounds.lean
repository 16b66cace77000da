import Mathlib.Algebra.Ring.Nat
import RubyClasses.Proofs.Hierarchy.Forest

/-! # The rounds of the queue

The queue is worked through in rounds. Round `t` starts with the structs of rank `t` or more in
their line; it places those of rank `t` and sends the others back, so that the next round starts
with them in the same line. In the middle of a round the queue holds what is still to come and
behind it what was sent back.
-/

namespace RubyClasses.Queue

open Hierarchy

/-- One queue becomes another in a number of turns, each of them taken by a struct that waits. -/
inductive Turns : Nat → Queue → Queue → Prop
  | done (q) : Turns 0 q q
  | next {count q last} (hwaiting : q.waiting ≠ []) (hrest : Turns count q.turn last) :
      Turns (count + 1) q last

namespace Turns

theorem trans {first second : Nat} {q middle last : Queue} (hfirst : Turns first q middle)
    (hsecond : Turns second middle last) : Turns (first + second) q last := by
  induction hfirst with
  | done => simpa using hsecond
  | next hwaiting _ ih =>
      rw [Nat.add_right_comm]
      exact .next hwaiting (ih hsecond)

/-- The loop takes exactly these turns when they empty the queue. -/
theorem settle_eq {count : Nat} {q last : Queue} (h : Turns count q last)
    (hempty : last.waiting = []) {limit : Nat} (hlimit : count ≤ limit) :
    settle limit q = (count, last) := by
  induction h generalizing limit with
  | done q =>
      cases limit with
      | zero => rfl
      | succ limit => simp [settle, hempty]
  | @next count q last hwaiting _ ih =>
      cases limit with
      | zero => omega
      | succ limit =>
          cases hq : q.waiting with
          | nil => exact absurd hq hwaiting
          | cons _ _ => simp [settle, hq, ih hempty (by omega : count ≤ limit)]

/-- The queue is empty after these turns and not before. -/
theorem waiting_iterate_eq_nil_iff {count : Nat} {q last : Queue} (h : Turns count q last)
    (hempty : last.waiting = []) (turns : Nat) :
    (turn^[turns] q).waiting = [] ↔ count ≤ turns := by
  induction h generalizing turns with
  | done q =>
      have hturn : turn q = q := by simp [turn, hempty]
      simp [Function.iterate_fixed hturn, hempty]
  | next hwaiting _ ih =>
      cases turns with
      | zero => simp [hwaiting]
      | succ turns =>
          rw [Function.iterate_succ_apply, ih hempty]
          omega

end Turns

/-- A turn moves a struct and loses none. -/
theorem turn_perm (q : Queue) :
    (q.turn.waiting ++ q.turn.placed).Perm (q.waiting ++ q.placed) := by
  cases hwaiting : q.waiting with
  | nil => simp [turn, hwaiting]
  | cons next rest =>
      simp only [turn, hwaiting]
      split
      · rw [← List.append_assoc]
        exact List.perm_append_singleton next _
      · exact (List.perm_append_singleton next rest).append_right _

theorem settle_perm (limit : Nat) (q : Queue) :
    ((settle limit q).2.waiting ++ (settle limit q).2.placed).Perm (q.waiting ++ q.placed) := by
  induction limit generalizing q with
  | zero => exact .refl _
  | succ limit ih =>
      cases hwaiting : q.waiting with
      | nil => simp [settle, hwaiting]
      | cons next rest =>
          simp only [settle, hwaiting]
          apply (ih q.turn).trans
          rw [← hwaiting]
          exact turn_perm q

theorem isReady_iff {q : Queue} {s : Struct} :
    q.isReady s = true ↔
      s.base = none ∨ ∃ found ∈ q.placed, s.base = some (.declared found.1) := by
  unfold isReady
  split
  next hbase => simp [hbase]
  next index hbase =>
    simp only [hbase, List.any_eq_true, beq_iff_eq, reduceCtorEq, Option.some.injEq,
      TypeRef.declared.injEq, false_or]
    exact ⟨fun ⟨e, he, h⟩ => ⟨e, he, h.symm⟩, fun ⟨e, he, h⟩ => ⟨e, he, h.symm⟩⟩
  next base hnot hbase =>
    simp only [hbase, reduceCtorEq, Option.some.injEq, false_or, Bool.false_eq_true, false_iff,
      not_exists, not_and]
    exact fun found _ heq => hnot _ heq

variable (line : List (Nat × Struct)) (rank : Nat → Nat)

/-- The structs of a line with a rank below `t`, by rank and in line. -/
def ranked (t : Nat) : List (Nat × Struct) :=
  (List.range t).flatMap fun r => line.filter fun entry => rank entry.1 = r

/-- The structs of a line that are still to be placed when round `t` starts. -/
def unplaced (t : Nat) : List (Nat × Struct) := line.filter fun entry => t ≤ rank entry.1

/-- The queue in round `t`, when some structs have had their turn and others are to come. -/
def inRound (t : Nat) (passed coming : List (Nat × Struct)) : Queue where
  waiting := coming ++ passed.filter fun entry => t + 1 ≤ rank entry.1
  placed := ranked line rank t ++ passed.filter fun entry => rank entry.1 = t

/-- The turns that are to be taken from the start of round `t` on. -/
def pending (t : Nat) : Nat := (line.map fun entry => rank entry.1 + 1 - t).sum

variable {line} {rank} {t : Nat} {entry : Nat × Struct}

theorem mem_ranked : entry ∈ ranked line rank t ↔ entry ∈ line ∧ rank entry.1 < t := by
  simp only [ranked, List.mem_flatMap, List.mem_range, List.mem_filter, decide_eq_true_eq]
  constructor
  · rintro ⟨r, hr, hmem, rfl⟩
    exact ⟨hmem, hr⟩
  · rintro ⟨hmem, hlt⟩
    exact ⟨_, hlt, hmem, rfl⟩

theorem ranked_succ :
    ranked line rank (t + 1) =
      ranked line rank t ++ line.filter fun entry => rank entry.1 = t := by
  simp [ranked, List.range_succ]

/-- The structs that had their turn in a round are those in front of the next one. -/
theorem mem_passed_iff (hdistinct : (line.map Prod.fst).Nodup)
    {passed coming : List (Nat × Struct)}
    (hround : unplaced line rank t = passed ++ entry :: coming)
    {found : Nat × Struct} (hfound : found ∈ unplaced line rank t) :
    found ∈ passed ↔ place line found.1 < place line entry.1 := by
  have hplaces : (unplaced line rank t).Pairwise
      fun a b => place line a.1 < place line b.1 := (pairwise_place hdistinct).filter _
  rw [hround] at hplaces hfound
  obtain ⟨_, hcoming, hpassed⟩ := List.pairwise_append.mp hplaces
  constructor
  · intro hmem
    exact hpassed found hmem entry List.mem_cons_self
  · intro hlt
    rcases List.mem_append.mp hfound with hmem | hmem
    · exact hmem
    · rcases List.mem_cons.mp hmem with rfl | hmem
      · exact absurd hlt (lt_irrefl _)
      · exact absurd hlt (lt_asymm (List.rel_of_pairwise_cons hcoming hmem))

/-- In round `t` the structs of rank `t` are ready when it is their turn, and no others. -/
theorem isReady_inRound (hforest : IsForest line) (hrank : IsRank line rank) (ht : 1 ≤ t)
    {passed coming : List (Nat × Struct)}
    (hround : unplaced line rank t = passed ++ entry :: coming) :
    (inRound line rank t passed (entry :: coming)).isReady entry.2 = true ↔ rank entry.1 = t := by
  have hentry : entry ∈ unplaced line rank t := by simp [hround]
  simp only [unplaced, List.mem_filter, decide_eq_true_eq] at hentry
  obtain ⟨hmem, hle⟩ := hentry
  rw [isReady_iff]
  cases hbase : entry.2.base with
  | none =>
      have hone := hrank.root entry hmem hbase
      simp only [true_or, true_iff]
      omega
  | some base =>
      obtain ⟨found, hfound, rfl⟩ := hforest.closed entry hmem base hbase
      -- the base has its turn before this struct, in an earlier round or in this one
      have hplaced : found ∈ (inRound line rank t passed (entry :: coming)).placed ↔
          rank found.1 < t ∨
            rank found.1 = t ∧ place line found.1 < place line entry.1 := by
        simp only [inRound, List.mem_append, mem_ranked, List.mem_filter, decide_eq_true_eq,
          hfound, true_and]
        refine or_congr_right ⟨?_, ?_⟩
        · rintro ⟨hpassed, heq⟩
          have hmem : found ∈ unplaced line rank t := by simp [unplaced, hfound, heq]
          exact ⟨heq, (mem_passed_iff hforest.distinct hround hmem).mp hpassed⟩
        · rintro ⟨heq, hlt⟩
          have hmem : found ∈ unplaced line rank t := by simp [unplaced, hfound, heq]
          exact ⟨(mem_passed_iff hforest.distinct hround hmem).mpr hlt, heq⟩
      have hready : (∃ other ∈ (inRound line rank t passed (entry :: coming)).placed,
          some (TypeRef.declared found.1) = some (.declared other.1)) ↔
            found ∈ (inRound line rank t passed (entry :: coming)).placed := by
        constructor
        · rintro ⟨other, hother, heq⟩
          have hline : other ∈ line := by
            simp only [inRound, List.mem_append, mem_ranked, List.mem_filter] at hother
            rcases hother with hother | hother
            · exact hother.1
            · have : other ∈ unplaced line rank t := by simp [hround, hother.1]
              exact (List.mem_filter.mp this).1
          have hindex : found.1 = other.1 := by simpa using heq
          rwa [List.inj_on_of_nodup_map hforest.distinct hfound hline hindex]
        · intro hother
          exact ⟨found, hother, rfl⟩
      rw [hready, hplaced]
      simp only [reduceCtorEq, false_or]
      by_cases hlt : place line found.1 < place line entry.1
      · have heq := hrank.baseAhead entry hmem _ hbase hlt
        omega
      · have heq := hrank.baseBehind entry hmem _ hbase hlt
        omega

/-- A turn in the middle of a round. -/
theorem turn_inRound (hforest : IsForest line) (hrank : IsRank line rank) (ht : 1 ≤ t)
    {passed coming : List (Nat × Struct)}
    (hround : unplaced line rank t = passed ++ entry :: coming) :
    (inRound line rank t passed (entry :: coming)).turn =
      inRound line rank t (passed ++ [entry]) coming := by
  have hready := isReady_inRound hforest hrank ht hround
  have hentry : entry ∈ unplaced line rank t := by simp [hround]
  have hle : t ≤ rank entry.1 := by simpa using (List.mem_filter.mp hentry).2
  have hwaiting : (inRound line rank t passed (entry :: coming)).waiting =
      entry :: (coming ++ passed.filter fun entry => t + 1 ≤ rank entry.1) := rfl
  simp only [turn, hwaiting]
  by_cases heq : rank entry.1 = t
  · rw [if_pos (hready.mpr heq)]
    simp [inRound, heq]
  · have hlater : t + 1 ≤ rank entry.1 := by omega
    have hback : [entry].filter (fun entry => t + 1 ≤ rank entry.1) = [entry] := by
      simp only [List.filter_cons, decide_eq_true hlater, if_true, List.filter_nil]
    have hnone : [entry].filter (fun entry => rank entry.1 = t) = [] := by
      simp only [List.filter_cons, decide_eq_false heq, Bool.false_eq_true, if_false,
        List.filter_nil]
    rw [if_neg (fun h => heq (hready.mp h))]
    simp only [inRound, List.filter_append, hback, hnone, List.append_nil, List.append_assoc]

/-- A round takes one turn for every struct that is still to come. -/
theorem turns_inRound (hforest : IsForest line) (hrank : IsRank line rank) (ht : 1 ≤ t)
    {passed coming : List (Nat × Struct)} (hround : unplaced line rank t = passed ++ coming) :
    Turns coming.length (inRound line rank t passed coming)
      (inRound line rank t (passed ++ coming) []) := by
  induction coming generalizing passed with
  | nil => simpa using Turns.done _
  | cons entry coming ih =>
      refine .next (by simp [inRound]) ?_
      rw [turn_inRound hforest hrank ht hround]
      have hfurther : unplaced line rank t = passed ++ [entry] ++ coming := by simpa using hround
      simpa using ih hfurther

theorem unplaced_succ :
    unplaced line rank (t + 1) =
      (unplaced line rank t).filter fun entry => t + 1 ≤ rank entry.1 := by
  simp only [unplaced, List.filter_filter]
  refine List.filter_congr fun entry _ => ?_
  simp only [← Bool.decide_and, decide_eq_decide]
  omega

/-- The end of a round is the start of the next. -/
theorem inRound_unplaced :
    inRound line rank t (unplaced line rank t) [] =
      inRound line rank (t + 1) [] (unplaced line rank (t + 1)) := by
  have hplaced : (unplaced line rank t).filter (fun entry => rank entry.1 = t) =
      line.filter fun entry => rank entry.1 = t := by
    simp only [unplaced, List.filter_filter]
    refine List.filter_congr fun entry _ => ?_
    simp only [← Bool.decide_and, decide_eq_decide]
    omega
  simp only [inRound, ← unplaced_succ, hplaced, ranked_succ, List.filter_nil, List.append_nil,
    List.nil_append]

theorem pending_succ :
    pending line rank t = (unplaced line rank t).length + pending line rank (t + 1) := by
  induction line with
  | nil => rfl
  | cons entry line ih =>
      simp only [pending, unplaced, List.map_cons, List.sum_cons, List.filter_cons] at ih ⊢
      split
      next hle =>
        have hle : t ≤ rank entry.1 := by simpa using hle
        rw [List.length_cons]
        omega
      next hlt =>
        have hlt : ¬ t ≤ rank entry.1 := by simpa using hlt
        omega

theorem pending_eq_zero (hnone : unplaced line rank t = []) : pending line rank t = 0 := by
  simp only [unplaced, List.filter_eq_nil_iff, decide_eq_true_eq, not_le] at hnone
  rw [pending, List.sum_eq_zero_iff_forall_eq_nat]
  intro turns hturns
  obtain ⟨entry, hmem, rfl⟩ := List.mem_map.mp hturns
  have hlt := hnone entry hmem
  omega

/-- From the start of a round on, the queue takes the pending turns and ends with all structs placed
by rank. -/
theorem turns_of_round (hforest : IsForest line) (hrank : IsRank line rank) (rounds : Nat)
    (ht : 1 ≤ t) (hbound : ∀ entry ∈ line, rank entry.1 < t + rounds) :
    Turns (pending line rank t) (inRound line rank t [] (unplaced line rank t))
      ⟨[], ranked line rank (t + rounds)⟩ := by
  induction rounds generalizing t with
  | zero =>
      have hnone : unplaced line rank t = [] := by
        simp only [unplaced, List.filter_eq_nil_iff, decide_eq_true_eq, not_le]
        exact hbound
      rw [hnone, pending_eq_zero hnone]
      simpa [inRound] using Turns.done _
  | succ rounds ih =>
      have hround := turns_inRound hforest hrank ht (List.nil_append (unplaced line rank t)).symm
      rw [List.nil_append, inRound_unplaced] at hround
      have hrest := ih (t := t + 1) (by omega) (fun entry hmem => by
        have := hbound entry hmem
        omega)
      rw [pending_succ]
      have hlast : t + 1 + rounds = t + (rounds + 1) := by omega
      rw [hlast] at hrest
      exact hround.trans hrest

end RubyClasses.Queue
