import RubyClasses.Proofs.Reference.Resolution

/-! # Brackets in references

Every list that a reference resolves to comes from one pair of brackets. All other brackets of the
reference are left in its remainder. No keyword has brackets, so the reference is refused then,
except where the letters and digits of the remainder spell a declared name: a name is read across
all other characters, brackets as well.
-/

namespace RubyClasses

/-- The number of lists around the innermost type. -/
def TypeRef.depth : TypeRef → Nat
  | list element => element.depth + 1
  | _ => 0

/-- The characters that end a reference to a list. -/
def Text.brackets : List Char := ['[', ']']

theorem Text.forall_brackets {P : Char → Prop} :
    (∀ bracket ∈ Text.brackets, P bracket) ↔ P '[' ∧ P ']' := by
  simp [Text.brackets]

/-- No keyword has brackets. -/
theorem Primitive.notMem_keyword (kind : Primitive) :
    ∀ bracket ∈ Text.brackets, bracket ∉ kind.keyword.toList := by
  rw [Text.forall_brackets]
  cases kind <;> decide

namespace Reference

open Text

variable {bracket : Char}

theorem isBlank_of_mem_brackets : ∀ bracket ∈ Text.brackets, isBlank bracket = false :=
  forall_brackets.mpr ⟨rfl, rfl⟩

theorem count_pair : ∀ bracket ∈ Text.brackets, ['[', ']'].count bracket = 1 :=
  forall_brackets.mpr (by decide)

/-- Taking blanks off the ends of a text takes no brackets off. -/
theorem count_strip (h : isBlank bracket = false) (cs : List Char) :
    (strip cs).count bracket = cs.count bracket := by
  obtain ⟨before, after, hblanks, hcs⟩ := exists_strip_between cs
  have hnone : (before ++ after).count bracket = 0 := by
    rw [List.count_eq_zero]
    intro hmem
    rw [hblanks bracket hmem] at h
    cases h
  have hcount := congrArg (List.count bracket) hcs
  simp only [List.count_append] at hnone hcount
  omega

/-- One bracket of either kind is taken off for each list, and the others remain. -/
theorem Leaves.count_eq {cs target : List Char} {lists : Nat} (h : Leaves cs lists target)
    (hbracket : bracket ∈ Text.brackets) : cs.count bracket = lists + target.count bracket := by
  have hstrip := count_strip (isBlank_of_mem_brackets bracket hbracket)
  induction h with
  | target => rw [hstrip, Nat.zero_add]
  | @brackets cs inner lists target hend _ ih =>
      rw [← hstrip cs, hend, List.count_append, count_pair bracket hbracket, ih]
      omega

/-- A name or a keyword names no list. -/
theorem Names.depth_eq_zero {names : List Name} {target : List Char} {inner : TypeRef}
    (h : Names names target inner) : inner.depth = 0 := by
  cases h <;> rfl

theorem depth_wrap (lists : Nat) (inner : TypeRef) :
    (wrap lists inner).depth = lists + inner.depth := by
  induction lists with
  | zero => rw [wrap, Nat.zero_add]
  | succ lists ih =>
      rw [wrap, TypeRef.depth, ih]
      omega

end Reference

namespace Description

open Reference (Leaves)

variable {names : List Name} {owner r : Text} {lists : Nat} {target : List Char}

/-- A reference that resolves is as deep as the number of brackets that were taken off it. -/
theorem depth_eq_of_typeOf (hleaves : Leaves r.toChars lists target) {ref : TypeRef}
    (h : typeOf names owner (.text r) = .ok ref) : ref.depth = lists := by
  rw [typeOf_of_leaves hleaves, map_eq_ok_iff] at h
  obtain ⟨inner, hinner, rfl⟩ := h
  rcases typeOfChars_cases names owner hleaves with herror | ⟨_, hok, hnames⟩
  · rw [herror] at hinner
    cases hinner
  · rw [hok] at hinner
    cases hinner
    rw [Reference.depth_wrap, hnames.depth_eq_zero, Nat.add_zero]

/-- A reference is refused exactly if its remainder is no keyword and spells no declared name. -/
theorem typeOf_eq_undeclared_iff (hleaves : Leaves r.toChars lists target) :
    typeOf names owner (.text r) = .error (.undeclared target owner) ↔
      (∀ kind : Primitive, target ≠ kind.keyword.toList) ∧
        ∀ name ∈ names, Name.ofText? (String.ofList target) ≠ some name := by
  have hresolves : (∃ ref, Reference.targetType? names target = some ref) ↔ _ :=
    Reference.exists_targetType?_iff
  rw [typeOf_of_leaves hleaves, map_eq_error_iff, typeOfChars_of_leaves hleaves]
  cases hfound : Reference.targetType? names target with
  | none => simpa [hfound] using hresolves
  | some inner =>
      simp only [hfound, Option.some.injEq, exists_eq', true_iff] at hresolves
      simp only [reduceCtorEq, false_iff, not_and_or]
      push Not
      exact hresolves

/-- A reference that resolves has as many brackets of either kind as there are lists in its type,
unless some remain behind the name or in front of it. It is refused when some remain, unless its
letters and digits spell a declared name in spite of them. -/
theorem typeOf_countsBrackets (names : List Name) (owner r : Text) :
    ∃ lists target, Leaves r.toChars lists target ∧
      (∀ ref, typeOf names owner (.text r) = .ok ref → ref.depth = lists ∧
        ((∀ bracket ∈ Text.brackets, r.toChars.count bracket = ref.depth) ↔
          ∀ bracket ∈ Text.brackets, bracket ∉ target)) ∧
      ((∃ bracket ∈ Text.brackets, bracket ∈ target) →
        (typeOf names owner (.text r) = .error (.undeclared target owner) ↔
          ∀ name ∈ names, Name.ofText? (String.ofList target) ≠ some name)) := by
  obtain ⟨lists, target, hleaves⟩ := Reference.exists_leaves r.toChars
  refine ⟨lists, target, hleaves, ?_, ?_⟩
  · intro ref href
    have hdepth := depth_eq_of_typeOf hleaves href
    refine ⟨hdepth, forall₂_congr fun bracket hbracket => ?_⟩
    rw [hdepth, hleaves.count_eq hbracket, Nat.add_eq_left, List.count_eq_zero]
  · rintro ⟨bracket, hbracket, hmem⟩
    rw [typeOf_eq_undeclared_iff hleaves, and_iff_right]
    rintro kind rfl
    exact kind.notMem_keyword bracket hbracket hmem

/-- A list of lists is read with all its brackets, and a gap in the brackets of an undeclared type
is reported. -/
theorem typeOf_countsBrackets_boxes :
    (∃ ref, typeOf [⟨["box"]⟩] (Text.ofString "box") (.text (Text.ofString "box [] []")) = .ok ref ∧
        ref.depth = 2 ∧
        ∀ bracket ∈ Text.brackets, (Text.ofString "box [] []").toChars.count bracket = 2) ∧
      typeOf [⟨["box"]⟩] (Text.ofString "box") (.text (Text.ofString "bag[ ]")) =
        .error (.undeclared "bag[ ]".toList (Text.ofString "box")) := by
  constructor
  · obtain ⟨lists, target, hleaves, haccepted, -⟩ :=
      typeOf_countsBrackets [⟨["box"]⟩] (Text.ofString "box") (Text.ofString "box [] []")
    have hparts : Leaves (Text.ofString "box [] []").toChars 2 "box".toList :=
      Reference.ofChars_eq_iff.mp (by decide +kernel)
    obtain ⟨rfl, rfl⟩ := hparts.unique hleaves
    have href : (typeOf [⟨["box"]⟩] (Text.ofString "box")
        (.text (Text.ofString "box [] []"))).toOption = some (.list (.list (.declared 0))) := by
      decide +kernel
    obtain ⟨hdepth, hcount⟩ := haccepted _ (toOption_eq_some_iff.mp href)
    exact ⟨_, toOption_eq_some_iff.mp href, hdepth,
      hcount.mpr (Text.forall_brackets.mpr (by decide))⟩
  · obtain ⟨lists, target, hleaves, -, hrefused⟩ :=
      typeOf_countsBrackets [⟨["box"]⟩] (Text.ofString "box") (Text.ofString "bag[ ]")
    have hparts : Leaves (Text.ofString "bag[ ]").toChars 0 "bag[ ]".toList :=
      Reference.ofChars_eq_iff.mp (by decide +kernel)
    obtain ⟨rfl, rfl⟩ := hparts.unique hleaves
    exact (hrefused ⟨'[', by decide, by decide⟩).mpr (by decide +kernel)

/-- A struct with a link to a list of its own kind, the brackets of which have a gap. -/
def gapText : String :=
  "\x7b\"types\":[\x7b\"kind\":\"struct\",\"name\":\"box\"," ++
  "\"links\":[\x7b\"name\":\"boxes\",\"type\":\"box[ ]\"\x7d]\x7d]\x7d"

/-- The link is read as one to a single box. -/
theorem not_countsBrackets_gapText :
    Model.ofText gapText = .ok ⟨[.struct ⟨⟨["box"]⟩, none, [], [⟨⟨["boxes"]⟩, .declared 0⟩]⟩]⟩ ∧
      typeOf [⟨["box"]⟩] (Text.ofString "box") (.text (Text.ofString "box[ ]")) =
        .ok (.declared 0) ∧
      (TypeRef.declared 0).depth = 0 ∧
      ∀ bracket ∈ Text.brackets, (Text.ofString "box[ ]").toChars.count bracket = 1 := by
  have hmodel : (Model.ofText gapText).toOption =
      some ⟨[.struct ⟨⟨["box"]⟩, none, [], [⟨⟨["boxes"]⟩, .declared 0⟩]⟩]⟩ := by
    decide +kernel
  have href : (typeOf [⟨["box"]⟩] (Text.ofString "box")
      (.text (Text.ofString "box[ ]"))).toOption = some (.declared 0) := by
    decide +kernel
  exact ⟨toOption_eq_some_iff.mp hmodel, toOption_eq_some_iff.mp href, rfl,
    Text.forall_brackets.mpr (by decide)⟩

end Description

end RubyClasses
