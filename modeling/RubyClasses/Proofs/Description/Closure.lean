import RubyClasses.Proofs.Description.Correspondence

/-! # Models that were read

A model that is read from a text corresponds to the document in that text entry by entry. It is
closed: whatever can be reached from its structs through bases, members and the elements of lists
is one of its declarations, and every base is one of its structs.
-/

namespace RubyClasses

open Json (Value)
open Description

/-- The declarations that a reference leads to are among the first `count` ones. -/
def TypeRef.IsWithin (count : Nat) : TypeRef → Prop
  | primitive _ => True
  | declared index => index < count
  | list element => element.IsWithin count
  | unknown _ => False

/-- What a reference denotes is found among the names that it was resolved with. -/
theorem Reference.Denotes.isWithin {names : List Name} {cs : List Char} {ref : TypeRef}
    (h : Denotes names cs ref) : ref.IsWithin names.length := by
  induction h with
  | list _ _ ih => exact ih
  | primitive => trivial
  | declared _ _ _ hindex => exact (List.getElem?_eq_some_iff.mp hindex).1

namespace Model

/-- What can be reached from the structs of a model through bases, members and list elements. -/
inductive Reaches (m : Model) : TypeRef → Prop
  | base {index s ref} (hstruct : m.struct? index = some s) (hbase : s.base = some ref) :
      Reaches m ref
  | member {index s member} (hstruct : m.struct? index = some s)
      (hmember : member ∈ s.attributes ++ s.links) : Reaches m member.type
  | element {ref} (hlist : Reaches m (.list ref)) : Reaches m ref

theorem mem_of_struct? {m : Model} {index : Nat} {s : Struct} (h : m.struct? index = some s) :
    Declaration.struct s ∈ m.declarations := by
  unfold struct? at h
  split at h
  next found hfound =>
    cases h
    exact List.mem_of_getElem? hfound
  next => cases h

/-- A model is read from a text exactly if the document in the text describes it. -/
theorem ofText_eq_ok_iff {content : String} {m : Model} :
    ofText content = .ok m ↔
      ∃ document, Json.readDocument content.toList = .ok document ∧
        DescribesModel document m := by
  simp only [← ofDocument_eq_ok_iff, ofText]
  split
  next h => simp [h]
  next h => simp [h]
  next document h =>
    rw [h]
    cases hdocument : ofDocument document <;> simp [Except.mapError, hdocument]

end Model

namespace Description

variable {m : Model} {document : Value}

/-- A struct of a described model comes from an entry with its references. -/
theorem DescribesModel.struct (h : DescribesModel document m) {s : Struct}
    (hmem : .struct s ∈ m.declarations) :
    ∃ fields, DescribesBase m fields s.base ∧
      DescribesMembers m.names fields "attributes" s.attributes ∧
      DescribesMembers m.names fields "links" s.links := by
  obtain ⟨_, _, -, -, hentries, -⟩ := h
  obtain ⟨entry, -, hentry⟩ := exists_left_of_forall₂ hentries hmem
  cases hentry with
  | struct _ _ _ hbase hattributes hlinks => exact ⟨_, hbase, hattributes, hlinks⟩

/-- The base of a struct is a struct. -/
theorem DescribesModel.base_isStruct (h : DescribesModel document m) {s : Struct}
    (hmem : .struct s ∈ m.declarations) {base : TypeRef} (hbase : s.base = some base) :
    ∃ index found, base = .declared index ∧ m.struct? index = some found := by
  obtain ⟨fields, hdescribed, -, -⟩ := h.struct hmem
  rw [hbase] at hdescribed
  cases hdescribed with
  | struct _ _ hstruct =>
      obtain ⟨found, hfound⟩ := Option.isSome_iff_exists.mp hstruct
      exact ⟨_, found, rfl, hfound⟩

/-- The types of described members stay within the names. -/
theorem DescribesMembers.type_isWithin {names : List Name} {fields : Fields} {key : String}
    {members : List Member} (h : DescribesMembers names fields key members) {member : Member}
    (hmem : member ∈ members) : member.type.IsWithin names.length := by
  obtain ⟨items, -, hmembers⟩ := h
  obtain ⟨_, -, _, _, _, -, -, -, -, hdenotes⟩ := exists_left_of_forall₂ hmembers hmem
  exact hdenotes.isWithin

/-- Nothing outside a described model can be reached from it. -/
theorem DescribesModel.reaches_isWithin (h : DescribesModel document m) {ref : TypeRef}
    (hreaches : m.Reaches ref) : ref.IsWithin m.declarations.length := by
  have hlength : m.names.length = m.declarations.length := List.length_map _
  induction hreaches with
  | base hstruct hbase =>
      obtain ⟨index, found, rfl, hfound⟩ := h.base_isStruct (Model.mem_of_struct? hstruct) hbase
      rw [TypeRef.IsWithin, ← not_le]
      intro hle
      rw [Model.struct?, List.getElem?_eq_none hle] at hfound
      cases hfound
  | member hstruct hmember =>
      obtain ⟨fields, -, hattributes, hlinks⟩ := h.struct (Model.mem_of_struct? hstruct)
      rw [← hlength]
      rcases List.mem_append.mp hmember with hmember | hmember
      · exact hattributes.type_isWithin hmember
      · exact hlinks.type_isWithin hmember
  | element _ ih => exact ih

end Description

/-- A model that was read has one declaration for each entry of the document, in order and under
distinct names, with the kind, the values and the references of that entry. Every type that its
structs lead to is one of its declarations, and their bases are structs. -/
theorem Model.corresponds_of_ofText {content : String} {m : Model} (h : ofText content = .ok m) :
    ∃ fields entries, Json.readDocument content.toList = .ok (.object fields) ∧
      Value.field? fields "types" = some (.array entries) ∧
      List.Forall₂ (Describes m) entries m.declarations ∧ m.names.Nodup ∧
      (∀ ref, m.Reaches ref → ref.IsWithin m.declarations.length) ∧
      ∀ s base, .struct s ∈ m.declarations → s.base = some base →
        ∃ index found, base = .declared index ∧ m.struct? index = some found := by
  obtain ⟨document, hdocument, hmodel⟩ := ofText_eq_ok_iff.mp h
  obtain ⟨fields, entries, rfl, htypes, hentries, hdistinct⟩ := id hmodel
  exact ⟨fields, entries, hdocument, htypes, hentries, hdistinct,
    fun _ => hmodel.reaches_isWithin, fun _ _ hmem => hmodel.base_isStruct hmem⟩

/-- Structs that refer to themselves and to each other, and an enumeration. -/
def knotText : String :=
  "\x7b\"types\":[" ++
  "\x7b\"kind\":\"struct\",\"name\":\"NodeList\",\"base\":\"node\"," ++
  "\"attributes\":[\x7b\"name\":\"items\",\"type\":\"NODE[] []\"\x7d]\x7d," ++
  "\x7b\"kind\":\"struct\",\"name\":\"node\"," ++
  "\"links\":[\x7b\"name\":\"next\",\"type\":\" node \"\x7d," ++
  "\x7b\"name\":\"owner\",\"type\":\"nodeList\"\x7d]\x7d," ++
  "\x7b\"kind\":\"enum\",\"name\":\"Color\",\"values\":[\"red\",\"darkRed\"]\x7d]\x7d"

/-- The model that the text describes. -/
def knotModel : Model where
  declarations := [
    .struct ⟨⟨["node", "list"]⟩, some (.declared 1),
      [⟨⟨["items"]⟩, .list (.list (.declared 1))⟩], []⟩,
    .struct ⟨⟨["node"]⟩, none, [],
      [⟨⟨["next"]⟩, .declared 1⟩, ⟨⟨["owner"]⟩, .declared 0⟩]⟩,
    .enumeration ⟨⟨["color"]⟩, [⟨["red"]⟩, ⟨["dark", "red"]⟩]⟩]

theorem ofText_knotText : Model.ofText knotText = .ok knotModel := by
  have hread : (Model.ofText knotText).toOption = some knotModel := by decide +kernel
  exact toOption_eq_some_iff.mp hread

theorem Model.corresponds_of_ofText_knotText :
    Model.ofText knotText = .ok knotModel ∧
      ∃ fields entries, Json.readDocument knotText.toList = .ok (.object fields) ∧
        Value.field? fields "types" = some (.array entries) ∧
        List.Forall₂ (Describes knotModel) entries knotModel.declarations := by
  obtain ⟨fields, entries, hdocument, htypes, hentries, -⟩ := corresponds_of_ofText ofText_knotText
  exact ⟨ofText_knotText, fields, entries, hdocument, htypes, hentries⟩

end RubyClasses
