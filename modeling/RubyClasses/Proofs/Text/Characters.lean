import Mathlib.Data.List.Basic
import RubyClasses.Naming

/-! # The characters of a text

Cutting a text and joining texts bring no characters in but those of the separator. Small letters
are other characters than the letters that they stand for, but never a NUL character.
-/

namespace RubyClasses

/-- What joined lists hold is held by one of them or by the separator. -/
theorem mem_of_mem_intercalate {α : Type} {separator : List α} {a : α} {parts : List (List α)}
    (h : a ∈ separator.intercalate parts) : a ∈ separator ∨ ∃ part ∈ parts, a ∈ part := by
  induction parts with
  | nil => simp at h
  | cons part rest ih =>
      cases rest with
      | nil => exact .inr ⟨part, List.mem_cons_self, by simpa using h⟩
      | cons next rest =>
          rw [List.intercalate_cons_cons] at h
          rcases List.mem_append.mp h with h | h
          · rcases List.mem_append.mp h with h | h
            · exact .inr ⟨part, List.mem_cons_self, h⟩
            · exact .inl h
          · apply (ih h).imp_right
            rintro ⟨other, hother, hmem⟩
            exact ⟨other, List.mem_cons_of_mem _ hother, hmem⟩

/-- A list stays as it is when its items do. -/
theorem map_eq_self {α : Type} {f : α → α} {items : List α} (h : ∀ a ∈ items, f a = a) :
    items.map f = items := by
  rw [List.map_congr_left (g := id) h, List.map_id]

/-- Joined lists are translated by translating the lists and the separator. -/
theorem map_intercalate {α β : Type} (f : α → β) (separator : List α) (parts : List (List α)) :
    (separator.intercalate parts).map f =
      (separator.map f).intercalate (parts.map (List.map f)) := by
  induction parts with
  | nil => rfl
  | cons part rest ih =>
      cases rest with
      | nil => simp
      | cons next rest =>
          rw [List.intercalate_cons_cons, List.map_append, List.map_append, ih]
          exact List.intercalate_cons_cons.symm

namespace Text

theorem mem_of_mem_consHead {c d : Char} {part : List Char} {parts : List (List Char)}
    (hpart : part ∈ consHead c parts) (hd : d ∈ part) : d = c ∨ ∃ other ∈ parts, d ∈ other := by
  cases parts with
  | nil =>
      obtain rfl := List.mem_singleton.mp hpart
      exact .inl (List.mem_singleton.mp hd)
  | cons first parts =>
      rcases List.mem_cons.mp hpart with rfl | hpart
      · exact (List.mem_cons.mp hd).imp_right fun hd => ⟨first, List.mem_cons_self, hd⟩
      · exact .inr ⟨part, List.mem_cons_of_mem _ hpart, hd⟩

/-- The characters between separators are characters of the text. -/
theorem mem_of_mem_partsBetween {isSeparator : Char → Bool} {cs part : List Char} {d : Char}
    (hpart : part ∈ partsBetween isSeparator cs) (hd : d ∈ part) : d ∈ cs := by
  induction cs generalizing part with
  | nil =>
      obtain rfl := List.mem_singleton.mp hpart
      exact hd
  | cons c rest ih =>
      unfold partsBetween at hpart
      split at hpart
      next =>
        rcases List.mem_cons.mp hpart with rfl | hpart
        · cases hd
        · exact List.mem_cons_of_mem _ (ih hpart hd)
      next =>
        rcases mem_of_mem_consHead hpart hd with rfl | ⟨other, hother, hd⟩
        · exact List.mem_cons_self
        · exact List.mem_cons_of_mem _ (ih hother hd)

/-- The characters between double colons are characters of the text. -/
theorem mem_of_mem_partsAtColons {cs part : List Char} {d : Char}
    (hpart : part ∈ partsAtColons cs) (hd : d ∈ part) : d ∈ cs := by
  fun_induction partsAtColons cs generalizing part with
  | case1 rest ih =>
      rcases List.mem_cons.mp hpart with rfl | hpart
      · cases hd
      · exact List.mem_cons_of_mem _ (List.mem_cons_of_mem _ (ih hpart hd))
  | case2 c rest _ ih =>
      rcases mem_of_mem_consHead hpart hd with rfl | ⟨other, hother, hd⟩
      · exact List.mem_cons_self
      · exact List.mem_cons_of_mem _ (ih hother hd)
  | case3 =>
      obtain rfl := List.mem_singleton.mp hpart
      exact hd

/-- Where a run leads to, there are characters other than NUL. -/
def Avoids (run : Nat × Nat × Nat × Int) : Prop :=
  match run with
  | (first, last, _, offset) => 0 < first + offset ∧
      (last + offset < 0xd800 ∨ 0xdfff < first + offset ∧ last + offset < 0x110000)

instance (run : Nat × Nat × Nat × Int) : Decidable (Avoids run) :=
  inferInstanceAs (Decidable (_ ∧ _))

theorem ofNat_ne_nul {code : Nat} (hpositive : 0 < code)
    (hvalid : code < 0xd800 ∨ 0xdfff < code ∧ code < 0x110000) : Char.ofNat code ≠ '\x00' := by
  intro heq
  have hcode : (Char.ofNat code).toNat = code := by
    have hchar : code.isValidChar := hvalid
    rw [Char.ofNat, dif_pos hchar]
    rfl
  rw [heq] at hcode
  exact Nat.ne_of_lt hpositive hcode

theorem throughRuns_ne_nul {runs : List (Nat × Nat × Nat × Int)} (h : ∀ run ∈ runs, Avoids run)
    {c : Char} (hc : c ≠ '\x00') : Char.ofNat (throughRuns runs c.toNat) ≠ '\x00' := by
  unfold throughRuns
  dsimp only
  split
  next first last step offset hfound =>
    obtain ⟨hlow, hhigh⟩ := h _ (List.mem_of_find?_eq_some hfound)
    have hrange := List.find?_some hfound
    simp only [Bool.and_eq_true, decide_eq_true_eq] at hrange
    apply ofNat_ne_nul <;> omega
  next => rwa [Char.ofNat_toNat]

theorem small_ne_nul {c d : Char} (hc : c ≠ '\x00') (hd : d ∈ small c) : d ≠ '\x00' := by
  unfold small at hd
  split at hd
  next hlatin =>
    obtain rfl := List.mem_singleton.mp hd
    have hforms : ∀ n < 128, Char.ofNat n ≠ '\x00' → (Char.ofNat n).toLower ≠ '\x00' := by
      decide +kernel
    have hform := hforms c.toNat hlatin
    rw [Char.ofNat_toNat] at hform
    exact hform hc
  next =>
    unfold throughTables at hd
    split at hd
    next image hlookup =>
      have himages : ∀ entry ∈ smallSequences, ∀ code ∈ entry.2, Char.ofNat code ≠ '\x00' := by
        decide +kernel
      obtain ⟨code, hcode, rfl⟩ := List.mem_map.mp hd
      obtain ⟨before, after, hentries, -⟩ := List.lookup_eq_some_iff.mp hlookup
      exact himages (c.toNat, image) (by simp [hentries]) code hcode
    next =>
      obtain rfl := List.mem_singleton.mp hd
      exact throughRuns_ne_nul (by decide +kernel) hc

theorem lowerAfter_ne_nul {cs : List Char} (h : '\x00' ∉ cs) (before : List Char) :
    '\x00' ∉ lowerAfter before cs := by
  induction cs generalizing before with
  | nil => simp [lowerAfter]
  | cons c rest ih =>
      obtain ⟨hc, hrest⟩ := not_or.mp (mt List.mem_cons.mpr h)
      unfold lowerAfter
      intro hmem
      rcases List.mem_append.mp hmem with hmem | hmem
      · split at hmem
        next => split at hmem <;> simp at hmem
        next => exact small_ne_nul (Ne.symm hc) hmem rfl
      · exact ih hrest _ hmem

end Text

end RubyClasses
