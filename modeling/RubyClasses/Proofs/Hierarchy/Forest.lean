import Mathlib.Data.Finset.Card
import Mathlib.Data.List.Nodup
import Mathlib.Logic.Relation
import RubyClasses.Model.Hierarchy

/-! # Forests of structs

Structs form a forest when their indexes tell them apart, every base is one of them, and no chain of
bases returns to where it started. Statements about the structs of a forest are proved along the
chains, from the structs without a base upwards.

When structs stand in a line, every one has a rank: one at the end of its chain, and one more for
every step of the chain at which the base stands behind its extension.
-/

namespace RubyClasses.Hierarchy

open Relation

/-- The struct at index `i` has the struct at index `j` as its base. -/
def Extends (entries : List (Nat × Struct)) (i j : Nat) : Prop :=
  ∃ s, (i, s) ∈ entries ∧ s.base = some (.declared j)

/-- Distinct structs with all their bases and without cycles. -/
structure IsForest (entries : List (Nat × Struct)) : Prop where
  distinct : (entries.map Prod.fst).Nodup
  closed : ∀ entry ∈ entries, ∀ base, entry.2.base = some base →
    ∃ found ∈ entries, base = .declared found.1
  acyclic : ∀ i, ¬ TransGen (Extends entries) i i

variable {entries : List (Nat × Struct)}

theorem Extends.mono {more : List (Nat × Struct)} (hsub : entries ⊆ more) {i j : Nat}
    (h : Extends entries i j) : Extends more i j := by
  obtain ⟨s, hmem, hbase⟩ := h
  exact ⟨s, hsub hmem, hbase⟩

/-- Heights that fall from every struct to its base leave no room for a cycle. -/
theorem acyclic_of_height (height : Nat → Nat)
    (hfall : ∀ i j, Extends entries i j → height j < height i) (i : Nat) :
    ¬ TransGen (Extends entries) i i := by
  have htransitive : ∀ j, TransGen (Extends entries) i j → height j < height i := by
    intro j hextends
    induction hextends with
    | single h => exact hfall _ _ h
    | tail _ h ih => exact (hfall _ _ h).trans ih
  exact fun hcycle => lt_irrefl _ (htransitive i hcycle)

/-- The index of the struct that a struct extends. -/
def baseIndex? (s : Struct) : Option Nat :=
  match s.base with
  | some (.declared index) => some index
  | _ => none

/-- Heights can be checked struct by struct. -/
theorem acyclic_of_heights (height : Nat → Nat)
    (hfall : ∀ entry ∈ entries, ∀ j ∈ baseIndex? entry.2, height j < height entry.1) (i : Nat) :
    ¬ TransGen (Extends entries) i i := by
  apply acyclic_of_height height
  intro i j hextends
  obtain ⟨s, hmem, hbase⟩ := hextends
  exact hfall (i, s) hmem j (by simp [baseIndex?, hbase])

namespace IsForest

theorem of_perm {other : List (Nat × Struct)} (h : IsForest entries)
    (hperm : entries.Perm other) : IsForest other where
  distinct := (hperm.map Prod.fst).nodup_iff.mp h.distinct
  closed entry hmem base hbase := by
    obtain ⟨found, hfound, heq⟩ := h.closed entry (hperm.mem_iff.mpr hmem) base hbase
    exact ⟨found, hperm.mem_iff.mp hfound, heq⟩
  acyclic i hcycle :=
    h.acyclic i (TransGen.mono (fun _ _ => Extends.mono hperm.symm.subset) _ _ hcycle)

/-- An index belongs to one struct. -/
theorem struct_unique (h : IsForest entries) {i : Nat} {s t : Struct} (hs : (i, s) ∈ entries)
    (ht : (i, t) ∈ entries) : s = t := by
  have heq := List.inj_on_of_nodup_map h.distinct hs ht rfl
  exact congrArg Prod.snd heq

theorem mem_of_extends (h : IsForest entries) {i j : Nat} (hextends : Extends entries i j) :
    i ∈ entries.map Prod.fst ∧ j ∈ entries.map Prod.fst := by
  obtain ⟨s, hmem, hbase⟩ := hextends
  obtain ⟨found, hfound, heq⟩ := h.closed _ hmem _ hbase
  cases heq
  exact ⟨List.mem_map_of_mem hmem, List.mem_map_of_mem hfound⟩

theorem mem_of_transGen (h : IsForest entries) {i j : Nat}
    (hextends : TransGen (Extends entries) i j) :
    i ∈ entries.map Prod.fst ∧ j ∈ entries.map Prod.fst := by
  induction hextends with
  | single hone => exact h.mem_of_extends hone
  | tail _ hone ih => exact ⟨ih.1, (h.mem_of_extends hone).2⟩

/-- Going from a struct to its base comes to an end: the indexes that can still be reached become
fewer. -/
theorem wellFounded (h : IsForest entries) : WellFounded fun j i => Extends entries i j := by
  classical
  let reachable (i : Nat) : Finset Nat :=
    (entries.map Prod.fst).toFinset.filter (TransGen (Extends entries) i)
  refine Subrelation.wf ?_ (measure fun i => (reachable i).card).wf
  intro j i hextends
  apply Finset.card_lt_card
  refine Finset.ssubset_iff_of_subset ?_ |>.mpr ⟨j, ?_, ?_⟩
  · intro k hk
    simp only [reachable, Finset.mem_filter] at hk ⊢
    exact ⟨hk.1, hk.2.head hextends⟩
  · simp only [reachable, Finset.mem_filter, List.mem_toFinset]
    exact ⟨(h.mem_of_extends hextends).2, TransGen.single hextends⟩
  · -- the base cannot be reached from itself, so one index is lost
    simp only [reachable, Finset.mem_filter, not_and]
    exact fun _ => h.acyclic j

/-- Induction along the chains of bases. -/
theorem induction (h : IsForest entries) {motive : Nat × Struct → Prop}
    (root : ∀ entry ∈ entries, entry.2.base = none → motive entry)
    (extension : ∀ entry ∈ entries, ∀ found ∈ entries,
      entry.2.base = some (.declared found.1) → motive found → motive entry) :
    ∀ entry ∈ entries, motive entry := by
  intro entry
  obtain ⟨i, s⟩ := entry
  induction i using h.wellFounded.induction generalizing s with
  | _ i ih =>
      intro hmem
      cases hbase : s.base with
      | none => exact root _ hmem hbase
      | some base =>
          obtain ⟨⟨j, t⟩, hfound, rfl⟩ := h.closed _ hmem _ hbase
          exact extension _ hmem _ hfound hbase (ih j ⟨s, hmem, hbase⟩ t hfound)

end IsForest

/-- The place of an index in a line of structs. -/
def place (line : List (Nat × Struct)) (i : Nat) : Nat := (line.map Prod.fst).idxOf i

/-- Distinct structs stand at ascending places of their line. -/
theorem pairwise_place {line : List (Nat × Struct)} (hdistinct : (line.map Prod.fst).Nodup) :
    line.Pairwise fun a b => place line a.1 < place line b.1 := by
  rw [List.pairwise_iff_getElem]
  intro a b ha hb hab
  have hplace : ∀ k (hk : k < line.length), place line (line.get ⟨k, hk⟩).1 = k := by
    intro k hk
    have hget := hdistinct.idxOf_getElem k (by simpa using hk)
    simpa [place] using hget
  have hfirst := hplace a ha
  have hsecond := hplace b hb
  rw [List.get_eq_getElem] at hfirst hsecond
  rw [hfirst, hsecond]
  exact hab

/-- In a line whose structs follow an asymmetric relation, that relation tells which of two structs
stands first. -/
theorem place_lt_of_pairwise {line : List (Nat × Struct)} {before : Nat → Nat → Prop}
    (hline : line.Pairwise fun a b => before a.1 b.1) (hasymm : ∀ i j, before i j → ¬ before j i)
    {i j : Nat} (hi : i ∈ line.map Prod.fst) (hj : j ∈ line.map Prod.fst) (hij : before i j) :
    place line i < place line j := by
  have hpairs := List.pairwise_iff_getElem.mp (List.pairwise_map.mpr hline)
  have hilt := List.idxOf_lt_length_of_mem hi
  have hjlt := List.idxOf_lt_length_of_mem hj
  have higet := List.getElem_idxOf hilt
  have hjget := List.getElem_idxOf hjlt
  rcases Nat.lt_trichotomy (place line i) (place line j) with hlt | heq | hgt
  · exact hlt
  · have hsame : i = j := by
      rw [← higet, ← hjget]
      exact getElem_congr_idx heq
    subst hsame
    exact absurd hij (hasymm i i hij)
  · have hji := hpairs _ _ hjlt hilt hgt
    rw [higet, hjget] at hji
    exact absurd hij (hasymm j i hji)

/-- What stands at a smaller place than a struct stands before it. -/
theorem mem_before_of_place_lt {before after : List (Nat × Struct)} {entry : Nat × Struct} {i : Nat}
    (h : place (before ++ entry :: after) i < place (before ++ entry :: after) entry.1) :
    i ∈ before.map Prod.fst := by
  by_contra hnot
  simp only [place, List.map_append, List.map_cons] at h
  rw [List.idxOf_append_of_notMem hnot] at h
  by_cases hmem : entry.1 ∈ before.map Prod.fst
  · have hlt := List.idxOf_lt_length_of_mem hmem
    rw [List.idxOf_append_of_mem hmem] at h
    omega
  · rw [List.idxOf_append_of_notMem hmem, List.idxOf_cons_self] at h
    omega

/-- The ranks of the structs in a line. -/
structure IsRank (line : List (Nat × Struct)) (rank : Nat → Nat) : Prop where
  root : ∀ entry ∈ line, entry.2.base = none → rank entry.1 = 1
  baseAhead : ∀ entry ∈ line, ∀ j, entry.2.base = some (.declared j) →
    place line j < place line entry.1 → rank entry.1 = rank j
  baseBehind : ∀ entry ∈ line, ∀ j, entry.2.base = some (.declared j) →
    ¬ place line j < place line entry.1 → rank entry.1 = rank j + 1

/-- The structs of a forest have ranks, in whatever line they stand. -/
theorem IsForest.exists_rank {line : List (Nat × Struct)} (h : IsForest line) :
    ∃ rank, IsRank line rank := by
  classical
  let rank : Nat → Nat := h.wellFounded.fix fun i earlier =>
    if hextends : ∃ j, Extends line i j then
      let below := earlier hextends.choose hextends.choose_spec
      if place line hextends.choose < place line i then below else below + 1
    else 1
  -- a struct extends one struct only, so the chosen base is any base
  have hrank : ∀ i j, Extends line i j →
      rank i = if place line j < place line i then rank j else rank j + 1 := by
    intro i j hextends
    have hexists : ∃ j, Extends line i j := ⟨j, hextends⟩
    have hchosen : hexists.choose = j := by
      obtain ⟨s, hs, hsbase⟩ := hextends
      obtain ⟨t, ht, htbase⟩ := hexists.choose_spec
      rw [h.struct_unique ht hs, hsbase] at htbase
      simpa using htbase.symm
    simp only [rank]
    rw [WellFounded.fix_eq, dif_pos hexists]
    change (if place line hexists.choose < place line i then rank hexists.choose
      else rank hexists.choose + 1) = _
    rw [hchosen]
  refine ⟨rank, ?_, ?_, ?_⟩
  · rintro ⟨i, s⟩ hmem hbase
    have hnone : ¬ ∃ j, Extends line i j := by
      rintro ⟨j, t, ht, htbase⟩
      rw [h.struct_unique ht hmem, hbase] at htbase
      cases htbase
    simp only [rank]
    rw [WellFounded.fix_eq, dif_neg hnone]
  · intro entry hmem j hbase hplace
    rw [hrank entry.1 j ⟨entry.2, hmem, hbase⟩, if_pos hplace]
  · intro entry hmem j hbase hplace
    rw [hrank entry.1 j ⟨entry.2, hmem, hbase⟩, if_neg hplace]

end RubyClasses.Hierarchy
