import RubyClasses.Proofs.Reference.Denotation

/-! # What remains of type references

Blanks around a reference and a pair of brackets at its end are taken off again and again. What
remains has no blanks around it and no brackets at its end; the reference resolves exactly when
this is a keyword or spells a declared name.
-/

namespace RubyClasses.Reference

open Text

/-- What remains of a reference, and how many pairs of brackets were taken off. -/
inductive Leaves : List Char → Nat → List Char → Prop
  /-- Without brackets at its end, only the blanks around a reference are taken off. -/
  | target {cs} (hbrackets : ¬ ['[', ']'] <:+ strip cs) : Leaves cs 0 (strip cs)
  /-- Brackets are taken off together with the blanks around them. -/
  | brackets {cs inner lists target} (hbrackets : strip cs = inner ++ ['[', ']'])
      (hinner : Leaves inner lists target) : Leaves cs (lists + 1) target

/-- What stands in front of the brackets is shorter. -/
theorem length_lt_of_strip_eq {cs inner : List Char} (h : strip cs = inner ++ ['[', ']']) :
    inner.length < cs.length := by
  have hle := strip_length_le cs
  rw [h] at hle
  simp only [List.length_append, List.length_cons, List.length_nil] at hle
  omega

/-- Something remains of every reference. -/
theorem exists_leaves (cs : List Char) : ∃ lists target, Leaves cs lists target := by
  induction hlength : cs.length using Nat.strongRecOn generalizing cs with
  | _ length ih =>
      by_cases hbrackets : ['[', ']'] <:+ strip cs
      · obtain ⟨inner, hinner⟩ := hbrackets
        have hshorter := length_lt_of_strip_eq hinner.symm
        obtain ⟨lists, target, hleaves⟩ := ih inner.length (hlength ▸ hshorter) inner rfl
        exact ⟨lists + 1, target, .brackets hinner.symm hleaves⟩
      · exact ⟨0, strip cs, .target hbrackets⟩

theorem Leaves.ofChars_eq {cs target : List Char} {lists : Nat} (h : Leaves cs lists target) :
    ofChars cs = ⟨lists, target⟩ := by
  induction h with
  | target hbrackets => exact ofChars_of_no_brackets hbrackets
  | brackets hend _ ih => rw [← ofChars_strip, hend, ofChars_brackets, ih]

/-- What remains of a reference is the target that it is taken apart into. -/
theorem ofChars_eq_iff {cs target : List Char} {lists : Nat} :
    ofChars cs = ⟨lists, target⟩ ↔ Leaves cs lists target := by
  constructor
  · intro h
    obtain ⟨others, other, hleaves⟩ := exists_leaves cs
    have heq := hleaves.ofChars_eq
    rw [h] at heq
    cases heq
    exact hleaves
  · exact Leaves.ofChars_eq

/-- Only one thing remains of a reference. -/
theorem Leaves.unique {cs target other : List Char} {lists others : Nat}
    (h : Leaves cs lists target) (hother : Leaves cs others other) :
    others = lists ∧ other = target := by
  have hparts := h.ofChars_eq
  rw [hother.ofChars_eq] at hparts
  cases hparts
  exact ⟨rfl, rfl⟩

/-- Nothing can be taken off what remains of a reference. -/
theorem Leaves.target_leaves {cs target : List Char} {lists : Nat} (h : Leaves cs lists target) :
    Leaves target 0 target := by
  induction h with
  | @target cs hbrackets =>
      rw [← strip_strip] at hbrackets
      have hleaves := Leaves.target hbrackets
      rwa [strip_strip] at hleaves
  | brackets _ _ ih => exact ih

theorem exists_targetType?_iff {names : List Name} {target : List Char} :
    (∃ ref, targetType? names target = some ref) ↔
      (∃ kind : Primitive, target = kind.keyword.toList) ∨
        ∃ name ∈ names, Name.ofText? (String.ofList target) = some name := by
  cases hkind : Primitive.ofKeyword? (String.ofList target) with
  | some kind =>
      have hkeyword := Primitive.ofKeyword?_eq_some_iff.mp hkind
      have htarget : target = kind.keyword.toList := by rw [← hkeyword, String.toList_ofList]
      simp only [targetType?, hkind]
      exact iff_of_true ⟨_, rfl⟩ (.inl ⟨kind, htarget⟩)
  | none =>
      have hkeyword : ¬ ∃ kind : Primitive, target = kind.keyword.toList := by
        rintro ⟨kind, rfl⟩
        rw [String.ofList_toList, Primitive.ofKeyword?_keyword] at hkind
        cases hkind
      rw [or_iff_right hkeyword]
      simp only [targetType?, hkind, Option.bind_eq_bind, Option.bind_eq_some_iff, Option.pure_def]
      constructor
      · rintro ⟨_, name, hname, index, hindex, -⟩
        obtain ⟨hlt, heq, -⟩ := List.findIdx?_eq_some_iff_getElem.mp hindex
        have hfound : names[index] = name := by simpa using heq
        exact ⟨name, hfound ▸ List.getElem_mem hlt, hname⟩
      · rintro ⟨name, hmem, hname⟩
        have hsome : (names.findIdx? (· == name)).isSome := by
          rw [List.findIdx?_isSome, List.any_eq_true]
          exact ⟨name, hmem, beq_self_eq_true name⟩
        obtain ⟨index, hindex⟩ := Option.isSome_iff_exists.mp hsome
        exact ⟨_, name, hname, index, hindex, rfl⟩

/-- A reference resolves when its remainder is a keyword or spells a declared name. -/
theorem exists_resolve?_iff {names : List Name} {cs : List Char} :
    (∃ ref, (ofChars cs).resolve? names = some ref) ↔ ∃ lists target, Leaves cs lists target ∧
      ((∃ kind : Primitive, target = kind.keyword.toList) ∨
        ∃ name ∈ names, Name.ofText? (String.ofList target) = some name) := by
  have hmap : (∃ ref, (ofChars cs).resolve? names = some ref) ↔
      ∃ ref, targetType? names (ofChars cs).target = some ref := by
    simp [resolve?, Option.map_eq_some_iff]
  rw [hmap, exists_targetType?_iff]
  constructor
  · intro htarget
    exact ⟨_, _, ofChars_eq_iff.mp rfl, htarget⟩
  · rintro ⟨lists, target, hleaves, htarget⟩
    rw [hleaves.ofChars_eq]
    exact htarget

/-- A reference denotes a declaration itself when nothing but blanks is taken off and its remainder
is no keyword. -/
theorem denotes_declared_iff {names : List Name} {cs : List Char} {index : Nat} :
    Denotes names cs (.declared index) ↔ ∃ target, Leaves cs 0 target ∧
      (∀ kind : Primitive, target ≠ kind.keyword.toList) ∧
      ∃ name, names[index]? = some name ∧ Name.ofText? (String.ofList target) = some name := by
  constructor
  · intro hdenotes
    cases hdenotes with
    | declared hbrackets hkeyword hname hindex =>
        refine ⟨strip cs, .target hbrackets, ?_, _, hindex, hname⟩
        intro kind hkind
        exact hkeyword kind (by rw [hkind, String.ofList_toList])
  · rintro ⟨target, hleaves, hkeyword, name, hindex, hname⟩
    cases hleaves with
    | target hbrackets =>
        refine .declared hbrackets ?_ hname hindex
        intro kind hkind
        exact hkeyword kind (by rw [← hkind, String.toList_ofList])

end RubyClasses.Reference
