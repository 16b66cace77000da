import Mathlib.Data.List.Lex
import Mathlib.Data.List.Nodup
import Mathlib.Data.String.Basic
import RubyClasses.Name

/-! # The order of names

Names are totally ordered by their words. Sorting entries by name keeps the entries, puts their
names in ascending order, and is stable: entries whose names do not decrease keep their order.
Distinct names leave a single result, whatever the order of the entries was.
-/

namespace RubyClasses.Name

theorem le_iff_words (a b : Name) : a ≤ b ↔ a.words ≤ b.words :=
  not_lt (a := b.words) (b := a.words)

instance : LinearOrder Name where
  le_refl a := (le_iff_words a a).mpr le_rfl
  le_trans a b c hab hbc := by
    rw [le_iff_words] at *
    exact le_trans hab hbc
  le_antisymm a b hab hba := by
    rw [le_iff_words] at hab hba
    cases a
    cases b
    exact congrArg mk (le_antisymm hab hba)
  le_total a b := by
    rw [le_iff_words, le_iff_words]
    exact le_total a.words b.words
  lt_iff_le_not_ge a b := by
    rw [le_iff_words, le_iff_words]
    exact lt_iff_le_not_ge (a := a.words) (b := b.words)
  toDecidableLE := inferInstance

variable {α β : Type} {name : α → Name}

theorem sortBy_perm (name : α → Name) (entries : List α) : (sortBy name entries).Perm entries :=
  List.mergeSort_perm _ _

theorem mem_sortBy {entries : List α} {entry : α} :
    entry ∈ sortBy name entries ↔ entry ∈ entries :=
  (sortBy_perm name entries).mem_iff

/-- Sorted entries have ascending names. -/
theorem sortBy_ascending (name : α → Name) (entries : List α) :
    (sortBy name entries).Pairwise fun a b => name a ≤ name b := by
  have hsorted : (sortBy name entries).Pairwise fun a b => decide (name a ≤ name b) := by
    refine List.pairwise_mergeSort ?_ ?_ entries
    · intro a b c hab hbc
      simp only [decide_eq_true_eq] at *
      exact le_trans hab hbc
    · intro a b
      simp only [Bool.or_eq_true, decide_eq_true_eq]
      exact le_total _ _
  exact hsorted.imp (fun h => by simpa using h)

/-- Entries whose names do not decrease are found in the same order after sorting. -/
theorem sortBy_stable (name : α → Name) {entries kept : List α} (hkept : kept.Sublist entries)
    (hascending : kept.Pairwise fun a b => name a ≤ name b) :
    kept.Sublist (sortBy name entries) := by
  refine List.sublist_mergeSort ?_ ?_ ?_ hkept
  · intro a b c hab hbc
    simp only [decide_eq_true_eq] at *
    exact le_trans hab hbc
  · intro a b
    simp only [Bool.or_eq_true, decide_eq_true_eq]
    exact le_total _ _
  · exact hascending.imp (fun h => by simpa using h)

/-- Sorted entries stay as they are. -/
theorem sortBy_sortBy (name : α → Name) (entries : List α) :
    sortBy name (sortBy name entries) = sortBy name entries := by
  apply List.mergeSort_of_pairwise
  exact (sortBy_ascending name entries).imp (fun h => by simpa using h)

/-- Sorting commutes with a translation of the entries that keeps their names. -/
theorem sortBy_map (f : α → β) (name : β → Name) (entries : List α) :
    sortBy name (entries.map f) = (sortBy (fun entry => name (f entry)) entries).map f :=
  (List.map_mergeSort (f := f) (fun _ _ _ _ => rfl)).symm

/-- Entries with distinct names have one sorted order. -/
theorem sortBy_eq_of_perm {first second : List α} (hperm : first.Perm second)
    (hdistinct : (first.map name).Nodup) : sortBy name first = sortBy name second := by
  have hsorted := (sortBy_perm name first).trans (hperm.trans (sortBy_perm name second).symm)
  refine hsorted.eq_of_pairwise ?_ (sortBy_ascending name first) (sortBy_ascending name second)
  intro a b ha hb hab hba
  exact List.inj_on_of_nodup_map hdistinct (mem_sortBy.mp ha)
    (hperm.mem_iff.mpr (mem_sortBy.mp hb)) (le_antisymm hab hba)

/-- Names alone have one sorted order, even where they repeat. -/
theorem sortBy_id_eq_of_perm {first second : List Name} (hperm : first.Perm second) :
    sortBy id first = sortBy id second := by
  have hsorted := (sortBy_perm id first).trans (hperm.trans (sortBy_perm id second).symm)
  exact hsorted.eq_of_pairwise (fun _ _ _ _ => le_antisymm)
    (sortBy_ascending id first) (sortBy_ascending id second)

end RubyClasses.Name
