import Mathlib.Data.List.Sort
import Mathlib.Data.String.Basic
import RubyClasses.Source.Buffer

/-! # Required files

A buffer keeps the names of the files that it requires in strictly ascending order. Requiring
several files one after the other has the same effect in every order, and however often a file is
required.
-/

namespace RubyClasses.Buffer

/-- Inserting a name adds it and keeps the others. -/
theorem mem_insertAscending {name other : String} {found : List String} :
    other ∈ insertAscending name found ↔ other = name ∨ other ∈ found := by
  induction found with
  | nil => simp [insertAscending]
  | cons first rest ih =>
      unfold insertAscending
      split
      · rw [List.mem_cons]
      · split
        next heq => simp [heq]
        next =>
          rw [List.mem_cons, ih, List.mem_cons]
          exact or_left_comm

/-- Inserting a name keeps the names in strictly ascending order. -/
theorem pairwise_insertAscending {name : String} {found : List String}
    (hfound : found.Pairwise (· < ·)) : (insertAscending name found).Pairwise (· < ·) := by
  induction found with
  | nil => simp [insertAscending]
  | cons first rest ih =>
      obtain ⟨hfirst, hrest⟩ := List.pairwise_cons.mp hfound
      unfold insertAscending
      split
      next hlt =>
        apply List.pairwise_cons.mpr
        refine ⟨?_, hfound⟩
        intro other hother
        rcases List.mem_cons.mp hother with rfl | hother
        · exact hlt
        · exact hlt.trans (hfirst other hother)
      next hnot =>
        split
        next => exact hfound
        next hne =>
          apply List.pairwise_cons.mpr
          refine ⟨?_, ih hrest⟩
          intro other hother
          rcases mem_insertAscending.mp hother with rfl | hother
          · exact lt_of_le_of_ne (not_lt.mp hnot) (Ne.symm hne)
          · exact hfirst other hother

theorem mem_foldl_insertAscending {names : List String} {other : String} {found : List String} :
    other ∈ names.foldl (fun found name => insertAscending name found) found ↔
      other ∈ names ∨ other ∈ found := by
  induction names generalizing found with
  | nil => simp
  | cons name names ih =>
      rw [List.foldl_cons, ih, mem_insertAscending, List.mem_cons, or_assoc]
      exact or_left_comm

theorem pairwise_foldl_insertAscending (names : List String) {found : List String}
    (hfound : found.Pairwise (· < ·)) :
    (names.foldl (fun found name => insertAscending name found) found).Pairwise (· < ·) := by
  induction names generalizing found with
  | nil => exact hfound
  | cons name names ih => exact ih (pairwise_insertAscending hfound)

/-- Requiring files changes nothing but the names of the required files. -/
theorem foldl_require (b : Buffer) (names : List String) :
    names.foldl require b =
      { b with
        requires := names.foldl (fun found name => insertAscending name found) b.requires } := by
  induction names generalizing b with
  | nil => rfl
  | cons name names ih => exact ih _

/-- What is required depends only on which names occur. -/
theorem foldl_require_eq {names others : List String} (b : Buffer)
    (hb : b.requires.Pairwise (· < ·)) (hsame : ∀ name, name ∈ names ↔ name ∈ others) :
    names.foldl require b = others.foldl require b := by
  have heq := (pairwise_foldl_insertAscending names hb).eq_of_mem_iff
    (pairwise_foldl_insertAscending others hb)
    fun name => by rw [mem_foldl_insertAscending, mem_foldl_insertAscending, hsame]
  rw [foldl_require, foldl_require, heq]

end RubyClasses.Buffer
