import RubyClasses.Proofs.Fallible
import RubyClasses.Model.Description
import RubyClasses.Proofs.Reference.Remainder

/-! # Resolving references

Blanks around a reference change nothing. Brackets behind it put a list around its type, and where
it has none they leave its fault as it is. So a reference resolves to a list for every pair of
brackets that can be taken off, around the built-in or declared type that its remainder names, and
it fails as its remainder does.
-/

namespace RubyClasses

theorem Text.toChars_append (first second : Text) :
    (first ++ second).toChars = first.toChars ++ second.toChars := List.map_append

namespace Reference

/-- The remainder of a reference names a type that is no list. -/
inductive Names (names : List Name) (target : List Char) : TypeRef → Prop
  | primitive {kind : Primitive} (hkeyword : target = kind.keyword.toList) :
      Names names target (.primitive kind)
  | declared {name : Name} {index : Nat}
      (hkeyword : ∀ kind : Primitive, target ≠ kind.keyword.toList)
      (hname : Name.ofText? (String.ofList target) = some name)
      (hindex : names[index]? = some name) : Names names target (.declared index)

/-- What a remainder resolves to is what it names. -/
theorem names_of_targetType? {names : List Name} {target : List Char} {ref : TypeRef}
    (h : targetType? names target = some ref) : Names names target ref := by
  unfold targetType? at h
  dsimp only at h
  split at h
  next kind hkind =>
    cases h
    have hkeyword := Primitive.ofKeyword?_eq_some_iff.mp hkind
    exact .primitive (by rw [← hkeyword, String.toList_ofList])
  next hnone =>
    simp only [Option.bind_eq_bind, Option.bind_eq_some_iff, Option.pure_def,
      Option.some.injEq] at h
    obtain ⟨name, hname, index, hindex, rfl⟩ := h
    obtain ⟨hlt, hfound, -⟩ := List.findIdx?_eq_some_iff_getElem.mp hindex
    refine .declared ?_ hname (List.getElem?_eq_some_iff.mpr ⟨hlt, by simpa using hfound⟩)
    rintro kind rfl
    rw [String.ofList_toList, Primitive.ofKeyword?_keyword] at hnone
    cases hnone

end Reference

namespace Description

open Reference (Leaves wrap)

variable {names : List Name} {owner r : Text}

/-- The type that characters denote as a reference in an entry. -/
def typeOfChars (names : List Name) (owner : Text) (cs : List Char) :
    Except DescriptionFault TypeRef :=
  typeOf names owner (.text (Text.ofString (String.ofList cs)))

/-- Blanks in front of a reference and behind it do not matter. -/
theorem typeOf_between_blanks {before after : Text}
    (hblanks : ∀ symbol ∈ before ++ after, Text.isBlank symbol.toChar = true) :
    typeOf names owner (.text (before ++ r ++ after)) = typeOf names owner (.text r) := by
  have hparts : Reference.ofChars (before ++ r ++ after).toChars = Reference.ofChars r.toChars := by
    rw [Text.toChars_append, Text.toChars_append]
    apply Reference.ofChars_between_blanks
    rw [← Text.toChars_append]
    exact List.forall_mem_map.mpr hblanks
  simp only [typeOf, hparts]

/-- Brackets behind a reference put a list around its type, or keep its fault as it is. -/
theorem typeOf_brackets (names : List Name) (owner r : Text) :
    typeOf names owner (.text (r ++ Text.ofString "[]")) =
      (typeOf names owner (.text r)).map .list := by
  have hbrackets : (Text.ofString "[]").toChars = ['[', ']'] := by decide
  simp only [typeOf, Text.toChars_append, hbrackets, Reference.ofChars_brackets,
    Reference.resolve?]
  cases Reference.targetType? names (Reference.ofChars r.toChars).target <;> rfl

/-- What characters denote is decided by what remains of them. -/
theorem typeOfChars_of_leaves {cs target : List Char} {lists : Nat} (h : Leaves cs lists target) :
    typeOfChars names owner target =
      match Reference.targetType? names target with
      | some inner => .ok inner
      | none => .error (.undeclared target owner) := by
  have htarget : (Text.ofString (String.ofList target)).toChars = target := by
    rw [Text.toChars_ofString, String.toList_ofList]
  simp only [typeOfChars, typeOf, htarget, h.target_leaves.ofChars_eq, Reference.resolve?]
  cases Reference.targetType? names target <;> rfl

/-- A reference resolves to lists around what its remainder resolves to. -/
theorem typeOf_of_leaves {lists : Nat} {target : List Char} (h : Leaves r.toChars lists target) :
    typeOf names owner (.text r) = (typeOfChars names owner target).map (wrap lists) := by
  rw [typeOfChars_of_leaves h]
  simp only [typeOf, h.ofChars_eq, Reference.resolve?]
  cases Reference.targetType? names target <;> rfl

/-- A remainder resolves to the type that it names, or to nothing. -/
theorem typeOfChars_cases (names : List Name) (owner : Text) {cs target : List Char} {lists : Nat}
    (h : Leaves cs lists target) :
    typeOfChars names owner target = .error (.undeclared target owner) ∨
      ∃ inner, typeOfChars names owner target = .ok inner ∧
        Reference.Names names target inner := by
  rw [typeOfChars_of_leaves h]
  cases hfound : Reference.targetType? names target with
  | none => exact .inl rfl
  | some inner => exact .inr ⟨inner, rfl, Reference.names_of_targetType? hfound⟩

/-- Blanks around a reference do not matter, and a pair of brackets behind it puts a list around its
type unless it has none. Exactly one thing remains of a reference once blanks and brackets have been
taken off. It names the innermost type, whatever number of brackets there was, or it is what the
fault is about. -/
theorem typeOf_layered (names : List Name) (owner : Text) :
    (∀ before r after : Text,
      (∀ symbol ∈ before ++ after, Text.isBlank symbol.toChar = true) →
        typeOf names owner (.text (before ++ r ++ after)) = typeOf names owner (.text r)) ∧
    (∀ r : Text, typeOf names owner (.text (r ++ Text.ofString "[]")) =
      (typeOf names owner (.text r)).map .list) ∧
    ∀ r : Text, ∃ lists target,
      (∀ others other, Leaves r.toChars others other ↔ others = lists ∧ other = target) ∧
      typeOf names owner (.text r) = (typeOfChars names owner target).map (wrap lists) ∧
      (typeOfChars names owner target = .error (.undeclared target owner) ∨
        ∃ inner, typeOfChars names owner target = .ok inner ∧
          Reference.Names names target inner) := by
  refine ⟨fun _ _ _ => typeOf_between_blanks, typeOf_brackets names owner, ?_⟩
  intro r
  obtain ⟨lists, target, hleaves⟩ := Reference.exists_leaves r.toChars
  refine ⟨lists, target, fun others other => ⟨hleaves.unique, ?_⟩, typeOf_of_leaves hleaves,
    typeOfChars_cases names owner hleaves⟩
  rintro ⟨rfl, rfl⟩
  exact hleaves

/-- Blanks of several kinds around a name and behind a pair of brackets. -/
theorem typeOf_layered_vmPool :
    (∀ symbol ∈ Text.ofString "\u2003" ++ Text.ofString " \t",
        Text.isBlank symbol.toChar = true) ∧
      typeOf [⟨["vm", "pool"]⟩] (Text.ofString "vm")
          (.text (Text.ofString "\u2003" ++ (Text.ofString "VM_POOL []" ++ Text.ofString "[]") ++
            Text.ofString " \t")) =
        .ok (.list (.list (.declared 0))) := by
  obtain ⟨hblanks, hbrackets, -⟩ := typeOf_layered [⟨["vm", "pool"]⟩] (Text.ofString "vm")
  have hblank : ∀ symbol ∈ Text.ofString "\u2003" ++ Text.ofString " \t",
      Text.isBlank symbol.toChar = true := by decide +kernel
  have hinner : (typeOf [⟨["vm", "pool"]⟩] (Text.ofString "vm")
      (.text (Text.ofString "VM_POOL []"))).toOption = some (.list (.declared 0)) := by
    decide +kernel
  refine ⟨hblank, ?_⟩
  rw [hblanks _ _ _ hblank, hbrackets, toOption_eq_some_iff.mp hinner]
  rfl

end Description

end RubyClasses
