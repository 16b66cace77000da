import Mathlib.Data.Option.Basic
import RubyClasses.Proofs.Description.Closure
import RubyClasses.Proofs.Name.Words
import RubyClasses.Proofs.Reference.Remainder

/-! # Which documents are descriptions

Whether a document describes a model can be said of its entries one by one, in any order: each has a
name and a kind, and its parts are lists of texts and of members whose references resolve among the
names that the entries declare. Reading succeeds for exactly these documents. Any other document is
refused with a fault of the description, whatever values it holds and wherever they stand.
-/

namespace RubyClasses

open Json (Value)

namespace Description

/-- A text with a letter or a digit, which is what names are spelled by. -/
def IsNameText (v : Value) : Prop := ∃ t, v = .text t ∧ ∃ c ∈ t.toChars, c.isAlphanum = true

/-- The name under which an entry stands, whatever else the entry says. -/
def declaredName? : Value → Option Name
  | .object fields =>
      match Value.field? fields "name" with
      | some (.text t) => Name.ofText? t.toString
      | _ => none
  | _ => none

/-- An entry that calls itself a struct. -/
def DeclaresStruct (entry : Value) : Prop :=
  ∃ fields, entry = .object fields ∧
    Value.field? fields "kind" = some (.text (Text.ofString "struct"))

/-- A reference leaves a keyword or a text that spells the name of an entry. -/
def Resolves (entries : List Value) (cs : List Char) : Prop :=
  ∃ lists target, Reference.Leaves cs lists target ∧
    ((∃ kind : Primitive, target = kind.keyword.toList) ∨
      ∃ name, Name.ofText? (String.ofList target) = some name ∧
        ∃ entry ∈ entries, declaredName? entry = some name)

/-- A reference without brackets leaves no keyword but a text that spells the name of a struct. -/
def ResolvesToStruct (entries : List Value) (cs : List Char) : Prop :=
  ∃ target, Reference.Leaves cs 0 target ∧ (∀ kind : Primitive, target ≠ kind.keyword.toList) ∧
    ∃ name, Name.ofText? (String.ofList target) = some name ∧
      ∃ entry ∈ entries, declaredName? entry = some name ∧ DeclaresStruct entry

/-- A field is absent or holds a list of certain items. -/
def HoldsList (P : Value → Prop) (fields : Fields) (key : String) : Prop :=
  ∀ v, Value.field? fields key = some v → ∃ items, v = .array items ∧ ∀ item ∈ items, P item

/-- A base is absent, empty or a reference to a struct. -/
def HoldsBase (entries : List Value) (fields : Fields) : Prop :=
  ∀ v, Value.field? fields "base" = some v →
    v.isEmpty = true ∨ ∃ t, v = .text t ∧ ResolvesToStruct entries t.toChars

/-- An entry of a list of members has a name and a type that resolves. -/
def IsMemberEntry (entries : List Value) (entry : Value) : Prop :=
  ∃ fields name type, entry = .object fields ∧
    Value.field? fields "name" = some name ∧ IsNameText name ∧
    Value.field? fields "type" = some (.text type) ∧ Resolves entries type.toChars

/-- An entry of the list of types is a struct or an enumeration with all its parts. -/
inductive IsTypeEntry (entries : List Value) : Value → Prop
  | struct {fields name}
      (hkind : Value.field? fields "kind" = some (.text (Text.ofString "struct")))
      (hname : Value.field? fields "name" = some name) (htext : IsNameText name)
      (hbase : HoldsBase entries fields)
      (hattributes : HoldsList (IsMemberEntry entries) fields "attributes")
      (hlinks : HoldsList (IsMemberEntry entries) fields "links") :
      IsTypeEntry entries (.object fields)
  | enumeration {fields name}
      (hkind : Value.field? fields "kind" = some (.text (Text.ofString "enum")))
      (hname : Value.field? fields "name" = some name) (htext : IsNameText name)
      (hvalues : HoldsList IsNameText fields "values") :
      IsTypeEntry entries (.object fields)

/-- A document with a list of types, all of them complete and under distinct names. -/
def IsDescription (document : Value) : Prop :=
  ∃ fields entries, document = .object fields ∧
    Value.field? fields "types" = some (.array entries) ∧
    (∀ entry ∈ entries, IsTypeEntry entries entry) ∧ (entries.map declaredName?).Nodup

/-- A text spells a name exactly if there is a letter or a digit in it. -/
theorem exists_spells_iff {v : Value} : (∃ name, Spells v name) ↔ IsNameText v := by
  constructor
  · rintro ⟨name, t, rfl, hname⟩
    have hletters := Name.exists_ofText?_iff.mp ⟨name, hname⟩
    rw [Text.toString, String.toList_ofList] at hletters
    exact ⟨t, rfl, hletters⟩
  · rintro ⟨t, rfl, hletters⟩
    have hname : ∃ name, Name.ofText? t.toString = some name := by
      rw [Name.exists_ofText?_iff, Text.toString, String.toList_ofList]
      exact hletters
    obtain ⟨name, hname⟩ := hname
    exact ⟨name, t, rfl, hname⟩

/-- A field holds a list when the items of the field, if there are any, all belong to something. -/
theorem exists_items_iff {β : Type} {r : Value → β → Prop} {fields : Fields} {key : String} :
    (∃ results items, HasItems fields key items ∧ List.Forall₂ r items results) ↔
      HoldsList (fun item => ∃ result, r item result) fields key := by
  constructor
  · rintro ⟨results, items, hitems, hresults⟩ v hv
    rcases hitems with hitems | ⟨hnone, rfl⟩
    · rw [hitems] at hv
      cases hv
      exact ⟨items, rfl, exists_forall₂_iff.mp ⟨results, hresults⟩⟩
    · rw [hnone] at hv
      cases hv
  · intro h
    cases hfield : Value.field? fields key with
    | none => exact ⟨[], [], .inr ⟨hfield, rfl⟩, .nil⟩
    | some v =>
        obtain ⟨items, rfl, hitems⟩ := h v hfield
        obtain ⟨results, hresults⟩ := exists_forall₂_iff.mpr hitems
        exact ⟨results, items, .inl hfield, hresults⟩

theorem exists_values_iff {fields : Fields} {key : String} :
    (∃ values items, HasItems fields key items ∧ List.Forall₂ Spells items values) ↔
      HoldsList IsNameText fields key := by
  simp only [exists_items_iff, exists_spells_iff]

theorem not_declaresStruct_of_enum {fields : Fields}
    (hkind : Value.field? fields "kind" = some (.text (Text.ofString "enum"))) :
    ¬ DeclaresStruct (.object fields) := by
  rintro ⟨fields, ⟨⟩, hstruct⟩
  rw [hkind] at hstruct
  exact absurd (Value.text.inj (Option.some.inj hstruct)) (by decide)

/-- An entry stands for a declaration: it has its name, and its kind as far as structs go. -/
def StandsFor (entry : Value) (d : Declaration) : Prop :=
  declaredName? entry = some d.name ∧ (DeclaresStruct entry ↔ isStruct d = true)

section Outlined

variable {entries : List Value} {m : Model}

/-- Entries and declarations have the same names at the same places. -/
theorem names_getElem?_iff (h : List.Forall₂ StandsFor entries m.declarations) {index : Nat}
    {name : Name} : m.names[index]? = some name ↔
      ∃ entry, entries[index]? = some entry ∧ declaredName? entry = some name := by
  rw [Model.names, List.getElem?_map, Option.map_eq_some_iff]
  constructor
  · rintro ⟨d, hd, rfl⟩
    obtain ⟨entry, hentry, hstands⟩ := exists_getElem?_of_forall₂ h.flip hd
    exact ⟨entry, hentry, hstands.1⟩
  · rintro ⟨entry, hentry, hname⟩
    obtain ⟨d, hd, hstands⟩ := exists_getElem?_of_forall₂ h hentry
    rw [hstands.1] at hname
    exact ⟨d, hd, Option.some.inj hname⟩

theorem mem_names_iff (h : List.Forall₂ StandsFor entries m.declarations) {name : Name} :
    name ∈ m.names ↔ ∃ entry ∈ entries, declaredName? entry = some name := by
  simp only [List.mem_iff_getElem?, names_getElem?_iff h]
  constructor
  · rintro ⟨index, entry, hentry, hname⟩
    exact ⟨entry, ⟨index, hentry⟩, hname⟩
  · rintro ⟨entry, ⟨index, hentry⟩, hname⟩
    exact ⟨index, entry, hentry, hname⟩

/-- The structs of a model stand where its entries call themselves structs. -/
theorem struct?_isSome_iff (h : List.Forall₂ StandsFor entries m.declarations) {index : Nat} :
    (m.struct? index).isSome = true ↔
      ∃ entry, entries[index]? = some entry ∧ DeclaresStruct entry := by
  rw [struct?_isSome, List.getElem?_map]
  constructor
  · intro hstruct
    cases hd : m.declarations[index]? with
    | none =>
        rw [hd] at hstruct
        cases hstruct
    | some d =>
        rw [hd] at hstruct
        obtain ⟨entry, hentry, hstands⟩ := exists_getElem?_of_forall₂ h.flip hd
        exact ⟨entry, hentry, hstands.2.mpr hstruct⟩
  · rintro ⟨entry, hentry, hstruct⟩
    obtain ⟨d, hd, hstands⟩ := exists_getElem?_of_forall₂ h hentry
    rw [hd]
    exact hstands.2.mp hstruct

/-- A reference denotes some type exactly if it resolves among the entries. -/
theorem exists_denotes_iff (h : List.Forall₂ StandsFor entries m.declarations)
    (hdistinct : m.names.Nodup) {cs : List Char} :
    (∃ ref, Reference.Denotes m.names cs ref) ↔ Resolves entries cs := by
  simp only [← Reference.resolve?_eq_some_iff hdistinct, Reference.exists_resolve?_iff,
    mem_names_iff h, Resolves]
  refine exists_congr fun lists => exists_congr fun target => and_congr_right fun _ => ?_
  exact or_congr_right (exists_congr fun name => and_comm)

/-- A reference denotes a struct exactly if it resolves to one among the entries. -/
theorem exists_denotes_struct_iff (h : List.Forall₂ StandsFor entries m.declarations)
    {cs : List Char} :
    (∃ index, Reference.Denotes m.names cs (.declared index) ∧ (m.struct? index).isSome = true) ↔
      ResolvesToStruct entries cs := by
  simp only [Reference.denotes_declared_iff, struct?_isSome_iff h, names_getElem?_iff h]
  constructor
  · rintro ⟨index, ⟨target, hleaves, hkeyword, name, ⟨entry, hentry, hdeclared⟩, hname⟩,
      other, hother, hstruct⟩
    rw [hentry] at hother
    cases hother
    exact ⟨target, hleaves, hkeyword, name, hname, entry, List.mem_of_getElem? hentry,
      hdeclared, hstruct⟩
  · rintro ⟨target, hleaves, hkeyword, name, hname, entry, hmem, hdeclared, hstruct⟩
    obtain ⟨index, hentry⟩ := List.getElem?_of_mem hmem
    exact ⟨index, ⟨target, hleaves, hkeyword, name, ⟨entry, hentry, hdeclared⟩, hname⟩,
      entry, hentry, hstruct⟩

/-- An entry of a list describes some member exactly if its name and its type are in order. -/
theorem exists_member_iff (h : List.Forall₂ StandsFor entries m.declarations)
    (hdistinct : m.names.Nodup) {entry : Value} :
    (∃ member, DescribesMember m.names entry member) ↔ IsMemberEntry entries entry := by
  constructor
  · rintro ⟨member, fields, name, type, rfl, hname, hspells, htype, hdenotes⟩
    exact ⟨fields, name, type, rfl, hname, exists_spells_iff.mp ⟨_, hspells⟩, htype,
      (exists_denotes_iff h hdistinct).mp ⟨_, hdenotes⟩⟩
  · rintro ⟨fields, name, type, rfl, hname, htext, htype, hresolves⟩
    obtain ⟨spelled, hspells⟩ := exists_spells_iff.mpr htext
    obtain ⟨ref, hdenotes⟩ := (exists_denotes_iff h hdistinct).mpr hresolves
    exact ⟨⟨spelled, ref⟩, fields, name, type, rfl, hname, hspells, htype, hdenotes⟩

theorem exists_members_iff (h : List.Forall₂ StandsFor entries m.declarations)
    (hdistinct : m.names.Nodup) {fields : Fields} {key : String} :
    (∃ members, DescribesMembers m.names fields key members) ↔
      HoldsList (IsMemberEntry entries) fields key := by
  simp only [DescribesMembers, exists_items_iff, exists_member_iff h hdistinct]

/-- A field describes whether there is a base exactly if it is absent, empty or refers to a struct.
-/
theorem exists_base_iff (h : List.Forall₂ StandsFor entries m.declarations) {fields : Fields} :
    (∃ base, DescribesBase m fields base) ↔ HoldsBase entries fields := by
  constructor
  · rintro ⟨base, hbase⟩ v hv
    cases hbase with
    | absent hnone =>
        left
        by_contra hfull
        have hsome := present?_eq_some_iff.mpr ⟨hv, Bool.eq_false_iff.mpr hfull⟩
        rw [hnone] at hsome
        cases hsome
    | struct htext hdenotes hstruct =>
        rw [htext] at hv
        cases hv
        exact .inr ⟨_, rfl, (exists_denotes_struct_iff h).mp ⟨_, hdenotes, hstruct⟩⟩
  · intro hbase
    cases hpresent : present? fields "base" with
    | none => exact ⟨none, .absent hpresent⟩
    | some v =>
        obtain ⟨hv, hfull⟩ := present?_eq_some_iff.mp hpresent
        rcases hbase v hv with hempty | ⟨t, rfl, hresolves⟩
        · rw [hfull] at hempty
          cases hempty
        · obtain ⟨index, hdenotes, hstruct⟩ := (exists_denotes_struct_iff h).mpr hresolves
          exact ⟨_, .struct hv hdenotes hstruct⟩

/-- An entry describes a declaration when all its parts are in order. -/
theorem exists_describes_iff (h : List.Forall₂ StandsFor entries m.declarations)
    (hdistinct : m.names.Nodup) {entry : Value} :
    (∃ d, Describes m entry d) ↔ IsTypeEntry entries entry := by
  constructor
  · rintro ⟨d, hd⟩
    cases hd with
    | struct hkind hname hspells hbase hattributes hlinks =>
        exact .struct hkind hname (exists_spells_iff.mp ⟨_, hspells⟩)
          ((exists_base_iff h).mp ⟨_, hbase⟩)
          ((exists_members_iff h hdistinct).mp ⟨_, hattributes⟩)
          ((exists_members_iff h hdistinct).mp ⟨_, hlinks⟩)
    | enumeration hkind hname hspells hitems hvalues =>
        exact .enumeration hkind hname (exists_spells_iff.mp ⟨_, hspells⟩)
          (exists_values_iff.mp ⟨_, _, hitems, hvalues⟩)
  · intro hentry
    cases hentry with
    | struct hkind hname htext hbase hattributes hlinks =>
        obtain ⟨name, hspells⟩ := exists_spells_iff.mpr htext
        obtain ⟨base, hbase⟩ := (exists_base_iff h).mpr hbase
        obtain ⟨attributes, hattributes⟩ := (exists_members_iff h hdistinct).mpr hattributes
        obtain ⟨links, hlinks⟩ := (exists_members_iff h hdistinct).mpr hlinks
        exact ⟨.struct ⟨name, base, attributes, links⟩,
          .struct hkind hname hspells hbase hattributes hlinks⟩
    | enumeration hkind hname htext hvalues =>
        obtain ⟨name, hspells⟩ := exists_spells_iff.mpr htext
        obtain ⟨values, items, hitems, hvalues⟩ := exists_values_iff.mpr hvalues
        exact ⟨.enumeration ⟨name, values⟩, .enumeration hkind hname hspells hitems hvalues⟩

end Outlined

/-- An entry stands for the declaration that it describes. -/
theorem Describes.standsFor {m : Model} {entry : Value} {d : Declaration}
    (h : Describes m entry d) : StandsFor entry d := by
  cases h with
  | struct hkind hname hspells =>
      obtain ⟨t, rfl, hname'⟩ := hspells
      refine ⟨by simp only [declaredName?, hname, hname', Declaration.name], ?_⟩
      exact iff_of_true ⟨_, rfl, hkind⟩ rfl
  | enumeration hkind hname hspells =>
      obtain ⟨t, rfl, hname'⟩ := hspells
      refine ⟨by simp only [declaredName?, hname, hname', Declaration.name], ?_⟩
      exact iff_of_false (not_declaresStruct_of_enum hkind) Bool.false_ne_true

/-- The heading of an entry is enough to stand for a declaration. -/
theorem IsTypeEntry.exists_standsFor {entries : List Value} {entry : Value}
    (h : IsTypeEntry entries entry) : ∃ d, StandsFor entry d := by
  cases h with
  | struct hkind hname htext =>
      obtain ⟨name, t, rfl, hspells⟩ := exists_spells_iff.mpr htext
      refine ⟨.struct ⟨name, none, [], []⟩, ?_, iff_of_true ⟨_, rfl, hkind⟩ rfl⟩
      simp only [declaredName?, hname, hspells, Declaration.name]
  | enumeration hkind hname htext =>
      obtain ⟨name, t, rfl, hspells⟩ := exists_spells_iff.mpr htext
      refine ⟨.enumeration ⟨name, []⟩, ?_,
        iff_of_false (not_declaresStruct_of_enum hkind) Bool.false_ne_true⟩
      simp only [declaredName?, hname, hspells, Declaration.name]

section Agreement

variable {entries : List Value} {m other : Model}

/-- All models that entries stand for have the same names. -/
theorem names_eq_of_standsFor (hm : List.Forall₂ StandsFor entries m.declarations)
    (hother : List.Forall₂ StandsFor entries other.declarations) : m.names = other.names := by
  apply List.ext_getElem?
  intro index
  apply Option.ext
  intro name
  rw [names_getElem?_iff hm, names_getElem?_iff hother]

/-- Which base is described does not depend on the rest of the model. -/
theorem DescribesBase.of_standsFor (hm : List.Forall₂ StandsFor entries m.declarations)
    (hother : List.Forall₂ StandsFor entries other.declarations) {fields : Fields}
    {base : Option TypeRef} (h : DescribesBase m fields base) :
    DescribesBase other fields base := by
  cases h with
  | absent hnone => exact .absent hnone
  | struct htext hdenotes hstruct =>
      rw [names_eq_of_standsFor hm hother] at hdenotes
      rw [struct?_isSome_iff hm, ← struct?_isSome_iff hother] at hstruct
      exact .struct htext hdenotes hstruct

/-- What an entry describes depends on the names and kinds of the declarations only. -/
theorem Describes.of_standsFor (hm : List.Forall₂ StandsFor entries m.declarations)
    (hother : List.Forall₂ StandsFor entries other.declarations) {entry : Value}
    {d : Declaration} (h : Describes m entry d) : Describes other entry d := by
  cases h with
  | struct hkind hname hspells hbase hattributes hlinks =>
      rw [names_eq_of_standsFor hm hother] at hattributes hlinks
      exact .struct hkind hname hspells (hbase.of_standsFor hm hother) hattributes hlinks
  | enumeration hkind hname hspells hitems hvalues =>
      exact .enumeration hkind hname hspells hitems hvalues

end Agreement

theorem names_nodup_iff {entries : List Value} {m : Model}
    (h : List.Forall₂ StandsFor entries m.declarations) :
    m.names.Nodup ↔ (entries.map declaredName?).Nodup := by
  have hnames : entries.map declaredName? = m.names.map some := by
    rw [Model.names, List.map_map]
    exact map_eq_map_of_forall₂ h fun _ _ hstands => hstands.1
  rw [hnames, List.nodup_map_iff (Option.some_injective _)]

/-- A document describes a model exactly when it is a description. -/
theorem exists_describesModel_iff {document : Value} :
    (∃ m, DescribesModel document m) ↔ IsDescription document := by
  constructor
  · rintro ⟨m, fields, entries, rfl, htypes, hentries, hdistinct⟩
    have hstands := hentries.imp fun _ _ => Describes.standsFor
    refine ⟨fields, entries, rfl, htypes, ?_, (names_nodup_iff hstands).mp hdistinct⟩
    have hdescribes := exists_forall₂_iff.mp ⟨_, hentries⟩
    intro entry hmem
    exact (exists_describes_iff hstands hdistinct).mp (hdescribes entry hmem)
  · rintro ⟨fields, entries, rfl, htypes, hentries, hdistinct⟩
    -- the headings alone tell what references denote, before any of them is resolved
    obtain ⟨heads, hheads⟩ :=
      exists_forall₂_iff.mpr fun entry hmem => (hentries entry hmem).exists_standsFor
    have hheaded : List.Forall₂ StandsFor entries (Model.mk heads).declarations := hheads
    have hnames := (names_nodup_iff hheaded).mpr hdistinct
    obtain ⟨ds, hds⟩ := exists_forall₂_iff.mpr fun entry hmem =>
      (exists_describes_iff hheaded hnames).mpr (hentries entry hmem)
    have hstands : List.Forall₂ StandsFor entries (Model.mk ds).declarations :=
      hds.imp fun _ _ => Describes.standsFor
    exact ⟨⟨ds⟩, fields, entries, rfl, htypes,
      hds.imp fun _ _ => Describes.of_standsFor hheaded hstands,
      (names_nodup_iff hstands).mpr hdistinct⟩

end Description

open Description

/-- Reading what a text holds ends with a model or with a fault of the description. It ends with a
model exactly when the document in the text is a description. -/
theorem Model.ofText_accepts (document : Value) :
    ((∃ m, ofDocument document = .ok m) ↔ IsDescription document) ∧
      ∀ content, Json.readDocument content.toList = .ok document →
        (IsDescription document ∧ ∃ m, ofText content = .ok m) ∨
          (¬ IsDescription document ∧ ∃ fault, ofText content = .error (.description fault)) := by
  have hdocument : (∃ m, ofDocument document = .ok m) ↔ IsDescription document := by
    simp only [ofDocument_eq_ok_iff, exists_describesModel_iff]
  refine ⟨hdocument, ?_⟩
  intro content hread
  have htext : ofText content = (ofDocument document).mapError .description := by
    simp only [ofText, hread]
  rw [htext, ← hdocument]
  cases ofDocument document with
  | ok m => exact .inl ⟨⟨m, rfl⟩, m, rfl⟩
  | error fault => exact .inr ⟨by simp, fault, rfl⟩

/-- A struct with an empty base, and lists of lists of an enumeration that is declared later. -/
def boxText : String :=
  "\x7b\"types\":[" ++
  "\x7b\"kind\":\"struct\",\"name\":\"box\",\"base\":\"\"," ++
  "\"links\":[\x7b\"name\":\"items\",\"type\":\" ITEM[] []\"\x7d]\x7d," ++
  "\x7b\"kind\":\"enum\",\"name\":\"item\"\x7d]\x7d"

/-- A struct that calls the enumeration its base. -/
def wrongBoxText : String :=
  "\x7b\"types\":[" ++
  "\x7b\"kind\":\"struct\",\"name\":\"box\",\"base\":\"item\"\x7d," ++
  "\x7b\"kind\":\"enum\",\"name\":\"item\"\x7d]\x7d"

/-- The document in such a text, given the further fields of the struct. -/
def boxDocument (fields : Fields) : Value :=
  let text (key value : String) : Text × Value :=
    (Text.ofString key, .text (Text.ofString value))
  let box := Value.object ([text "kind" "struct", text "name" "box"] ++ fields)
  let item := Value.object [text "kind" "enum", text "name" "item"]
  .object [(Text.ofString "types", .array [box, item])]

/-- The further fields of the struct in the first text. -/
def boxFields : Fields := [
  (Text.ofString "base", .text []),
  (Text.ofString "links", .array [.object [
    (Text.ofString "name", .text (Text.ofString "items")),
    (Text.ofString "type", .text (Text.ofString " ITEM[] []"))]])]

/-- The further fields of the struct in the second text. -/
def wrongBoxFields : Fields := [(Text.ofString "base", .text (Text.ofString "item"))]

theorem readDocument_boxText :
    Json.readDocument boxText.toList = .ok (boxDocument boxFields) := by
  cbv

theorem readDocument_wrongBoxText :
    Json.readDocument wrongBoxText.toList = .ok (boxDocument wrongBoxFields) := by
  cbv

theorem Model.ofText_accepts_boxText :
    (IsDescription (boxDocument boxFields) ∧ ∃ m, ofText boxText = .ok m) ∧
      ¬ IsDescription (boxDocument wrongBoxFields) ∧
        ∃ fault, ofText wrongBoxText = .error (.description fault) := by
  have hbox : (ofText boxText).toOption.isSome = true := by decide +kernel
  have hwrong : (ofText wrongBoxText).toOption.isSome = false := by decide +kernel
  constructor
  · rcases (ofText_accepts _).2 boxText readDocument_boxText with h | ⟨-, fault, hfault⟩
    · exact h
    · rw [hfault] at hbox
      cases hbox
  · rcases (ofText_accepts _).2 wrongBoxText readDocument_wrongBoxText with ⟨-, m, hm⟩ | h
    · rw [hm] at hwrong
      cases hwrong
    · exact h

end RubyClasses
