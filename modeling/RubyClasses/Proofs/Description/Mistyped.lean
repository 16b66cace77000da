import RubyClasses.Proofs.Description.Acceptance
import RubyClasses.Proofs.Description.Structs

/-! # Values of a wrong type in documents

Names, the values of enumerations, member types and bases are texts, and the parts of an entry are
lists. A single value that is anything else keeps a document from being accepted, wherever it stands
and whatever the other entries hold, and so does a base that names no struct. The one exception is a
base that is empty without being null: a struct with such a base is read as one that extends
nothing. In a document that is accepted, all values of a wrong type are such bases.
-/

namespace RubyClasses

open Json (Value)

namespace Description

/-- A value is a text. -/
def IsText (v : Value) : Prop := ∃ t, v = .text t

/-- A value is a list. -/
def IsList (v : Value) : Prop := ∃ items, v = .array items

/-- The fields of an entry give its kind. -/
def HasKind (fields : Fields) (kind : String) : Prop :=
  Value.field? fields "kind" = some (.text (Text.ofString kind))

/-- A value in a field of an entry of a list of types has a wrong type, or is a base that names no
struct. The values in a list of members stand in the field that holds the list. -/
inductive IsMistyped (entries : List Value) (fields : Fields) : String → Value → Prop
  | name {v} (hname : Value.field? fields "name" = some v) (htext : ¬ IsText v) :
      IsMistyped entries fields "name" v
  | values {v} (hkind : HasKind fields "enum") (hvalues : Value.field? fields "values" = some v)
      (hlist : ¬ IsList v) : IsMistyped entries fields "values" v
  | value {items item} (hkind : HasKind fields "enum")
      (hvalues : Value.field? fields "values" = some (.array items)) (hitem : item ∈ items)
      (htext : ¬ IsText item) : IsMistyped entries fields "values" item
  | members {key v} (hkind : HasKind fields "struct") (hkey : key ∈ ["attributes", "links"])
      (hmembers : Value.field? fields key = some v) (hlist : ¬ IsList v) :
      IsMistyped entries fields key v
  | member {key items member part v} (hkind : HasKind fields "struct")
      (hkey : key ∈ ["attributes", "links"])
      (hmembers : Value.field? fields key = some (.array items)) (hitem : .object member ∈ items)
      (hpart : part ∈ ["name", "type"]) (hfield : Value.field? member part = some v)
      (htext : ¬ IsText v) : IsMistyped entries fields key v
  | base {v} (hkind : HasKind fields "struct") (hbase : Value.field? fields "base" = some v)
      (hnull : v ≠ .null) (htext : ¬ IsText v) : IsMistyped entries fields "base" v
  | unresolved {t} (hkind : HasKind fields "struct")
      (hbase : Value.field? fields "base" = some (.text t))
      (hstruct : ¬ ResolvesToStruct entries t.toChars) : IsMistyped entries fields "base" (.text t)

/-- A value in a field of an entry is the base of a struct, and empty without being null: false,
zero, or an empty text, list or object. -/
structure IsEmptyBase (fields : Fields) (key : String) (v : Value) : Prop where
  key_eq : key = "base"
  kind : HasKind fields "struct"
  field : Value.field? fields "base" = some v
  ne_null : v ≠ .null
  isEmpty : v.isEmpty = true

/-- A document lists an entry with some fields at a place among its types. -/
def Lists (document : Value) (entries : List Value) (index : Nat) (entry : Fields) : Prop :=
  ∃ fields, document = .object fields ∧ Value.field? fields "types" = some (.array entries) ∧
    entries[index]? = some (.object entry)

/-- A value of a wrong type in an accepted document is the base of a struct, which is empty and has
been taken for an absent one. -/
structure IsOverlooked (m : Model) (index : Nat) (entry : Fields) (key : String) (v : Value) :
    Prop where
  isEmptyBase : IsEmptyBase entry key v
  exists_root : ∃ s, m.struct? index = some s ∧ s.base = none

theorem IsNameText.isText {v : Value} (h : IsNameText v) : IsText v := by
  obtain ⟨t, rfl, -⟩ := h
  exact ⟨t, rfl⟩

theorem HasKind.eq {fields : Fields} {kind other : String} (h : HasKind fields kind)
    (hother : HasKind fields other) : Text.ofString kind = Text.ofString other := by
  rw [HasKind, h] at hother
  exact Value.text.inj (Option.some.inj hother)

section Entries

variable {entries : List Value} {fields : Fields}

/-- An entry in order has a text for its name. -/
theorem IsTypeEntry.name (h : IsTypeEntry entries (.object fields)) :
    ∃ v, Value.field? fields "name" = some v ∧ IsText v := by
  cases h with
  | struct _ hname htext => exact ⟨_, hname, htext.isText⟩
  | enumeration _ hname htext => exact ⟨_, hname, htext.isText⟩

/-- An enumeration in order lists the texts of its values. -/
theorem IsTypeEntry.of_enum (h : IsTypeEntry entries (.object fields))
    (hkind : HasKind fields "enum") : HoldsList IsNameText fields "values" := by
  cases h with
  | struct hstruct => exact absurd (HasKind.eq hstruct hkind) (by decide)
  | enumeration _ _ _ hvalues => exact hvalues

/-- A struct in order has a base in order, and so are its lists of members. -/
theorem IsTypeEntry.of_struct (h : IsTypeEntry entries (.object fields))
    (hkind : HasKind fields "struct") : HoldsBase entries fields ∧
      ∀ key ∈ ["attributes", "links"], HoldsList (IsMemberEntry entries) fields key := by
  cases h with
  | struct _ _ _ hbase hattributes hlinks => simp [hbase, hattributes, hlinks]
  | enumeration henum => exact absurd (HasKind.eq henum hkind) (by decide)

/-- The name and the type of a member in order are texts. -/
theorem IsMemberEntry.part {member : Fields} (h : IsMemberEntry entries (.object member))
    {part : String} (hpart : part ∈ ["name", "type"]) {v : Value}
    (hfield : Value.field? member part = some v) : IsText v := by
  obtain ⟨_, name, type, ⟨⟩, hname, htext, htype, -⟩ := h
  simp only [List.mem_cons, List.not_mem_nil, or_false] at hpart
  rcases hpart with rfl | rfl
  · rw [hname] at hfield
    cases hfield
    exact htext.isText
  · rw [htype] at hfield
    cases hfield
    exact ⟨type, rfl⟩

/-- The empty text is no reference to a struct. -/
theorem not_resolvesToStruct_nil (entries : List Value) : ¬ ResolvesToStruct entries [] := by
  rintro ⟨target, hleaves, -, name, hname, -⟩
  cases hleaves
  have hnone : Name.ofText? (String.ofList (Text.strip [])) = none := by decide
  rw [hnone] at hname
  cases hname

/-- In an entry with all its parts in order, the empty base is all that has a wrong type. -/
theorem IsTypeEntry.isMistyped_iff (h : IsTypeEntry entries (.object fields)) {key : String}
    {v : Value} : IsMistyped entries fields key v ↔ IsEmptyBase fields key v := by
  constructor
  · intro hmistyped
    cases hmistyped with
    | name hname htext =>
        obtain ⟨v, hfound, hv⟩ := h.name
        rw [hname] at hfound
        cases hfound
        exact (htext hv).elim
    | values hkind hvalues hlist =>
        obtain ⟨items, rfl, -⟩ := h.of_enum hkind _ hvalues
        exact (hlist ⟨items, rfl⟩).elim
    | value hkind hvalues hitem htext =>
        obtain ⟨_, ⟨⟩, hitems⟩ := h.of_enum hkind _ hvalues
        exact (htext (hitems _ hitem).isText).elim
    | members hkind hkey hmembers hlist =>
        obtain ⟨items, rfl, -⟩ := (h.of_struct hkind).2 _ hkey _ hmembers
        exact (hlist ⟨items, rfl⟩).elim
    | member hkind hkey hmembers hitem hpart hfield htext =>
        obtain ⟨_, ⟨⟩, hitems⟩ := (h.of_struct hkind).2 _ hkey _ hmembers
        exact (htext ((hitems _ hitem).part hpart hfield)).elim
    | base hkind hbase hnull htext =>
        rcases (h.of_struct hkind).1 _ hbase with hempty | ⟨t, rfl, -⟩
        · exact ⟨rfl, hkind, hbase, hnull, hempty⟩
        · exact (htext ⟨t, rfl⟩).elim
    | unresolved hkind hbase hstruct =>
        rcases (h.of_struct hkind).1 _ hbase with hempty | ⟨_, ⟨⟩, hresolves⟩
        · exact ⟨rfl, hkind, hbase, by simp, hempty⟩
        · exact (hstruct hresolves).elim
  · rintro ⟨rfl, hkind, hbase, hnull, hempty⟩
    by_cases htext : IsText v
    · obtain ⟨t, rfl⟩ := htext
      obtain rfl : t = [] := by simpa [Value.isEmpty] using hempty
      exact .unresolved hkind hbase (not_resolvesToStruct_nil entries)
    · exact .base hkind hbase hnull htext

end Entries

section Documents

variable {document : Value} {entries : List Value} {index : Nat} {entry : Fields}

theorem IsDescription.isTypeEntry (h : IsDescription document)
    (hlists : Lists document entries index entry) : IsTypeEntry entries (.object entry) := by
  obtain ⟨fields, others, rfl, htypes, hentries, -⟩ := h
  obtain ⟨_, ⟨⟩, hfound, hentry⟩ := hlists
  rw [htypes] at hfound
  cases hfound
  exact hentries _ (List.mem_of_getElem? hentry)

/-- An empty base describes that there is none. -/
theorem DescribesBase.eq_none {m : Model} {base : Option TypeRef} {v : Value}
    (h : DescribesBase m entry base) (hempty : IsEmptyBase entry "base" v) : base = none := by
  cases h with
  | absent => rfl
  | struct hfield hdenotes =>
      have hfull := isEmpty_eq_false_of_denotes hdenotes
      rw [hempty.field] at hfield
      cases hfield
      rw [hempty.isEmpty] at hfull
      cases hfull

/-- A struct with an empty base is read as one without a base. -/
theorem DescribesModel.exists_root {m : Model} (h : DescribesModel document m)
    (hlists : Lists document entries index entry) {v : Value}
    (hempty : IsEmptyBase entry "base" v) : ∃ s, m.struct? index = some s ∧ s.base = none := by
  obtain ⟨fields, others, rfl, htypes, hentries, -⟩ := h
  obtain ⟨_, ⟨⟩, hfound, hentry⟩ := hlists
  rw [htypes] at hfound
  cases hfound
  obtain ⟨d, hd, hdescribes⟩ := exists_getElem?_of_forall₂ hentries hentry
  cases hdescribes with
  | struct _ _ _ hbase =>
      exact ⟨_, Model.struct?_eq_some_iff.mpr hd, hbase.eq_none hempty⟩
  | enumeration hkind => exact absurd (HasKind.eq hkind hempty.kind) (by decide)

end Documents

end Description

open Description

/-- A document that describes no model is refused with a fault of the description. -/
theorem Model.exists_fault_of_not_isDescription {content : String} {document : Value}
    (hread : Json.readDocument content.toList = .ok document) (h : ¬ IsDescription document) :
    ∃ fault, ofText content = .error (.description fault) := by
  rw [← exists_describesModel_iff] at h
  simp only [← ofDocument_eq_ok_iff] at h
  have htext : ofText content = (ofDocument document).mapError .description := by
    simp only [ofText, hread]
  cases hdocument : ofDocument document with
  | ok m => exact (h ⟨m, hdocument⟩).elim
  | error fault => exact ⟨fault, by rw [htext, hdocument]; rfl⟩

theorem Model.describesModel_of_ofText {content : String} {document : Value} {m : Model}
    (hread : Json.readDocument content.toList = .ok document) (h : ofText content = .ok m) :
    DescribesModel document m := by
  obtain ⟨other, hother, hmodel⟩ := ofText_eq_ok_iff.mp h
  rw [hread] at hother
  cases hother
  exact hmodel

/-- Any value of a wrong type that is no empty base keeps a document from being accepted, whatever
else the document holds. In an accepted document the values of a wrong type are exactly the empty
bases, and they are overlooked. -/
theorem Model.refuses_mistyped {content : String} {document : Value}
    (hread : Json.readDocument content.toList = .ok document) {entries : List Value} {index : Nat}
    {entry : Fields} (hlists : Lists document entries index entry) (key : String) (v : Value) :
    (IsMistyped entries entry key v → ¬ IsEmptyBase entry key v →
        ∃ fault, ofText content = .error (.description fault)) ∧
      ∀ m, ofText content = .ok m →
        (IsMistyped entries entry key v ↔ IsOverlooked m index entry key v) := by
  constructor
  · intro hmistyped hfull
    apply exists_fault_of_not_isDescription hread
    intro hdescription
    exact hfull ((hdescription.isTypeEntry hlists).isMistyped_iff.mp hmistyped)
  · intro m hm
    have hmodel := describesModel_of_ofText hread hm
    have hentry := (exists_describesModel_iff.mp ⟨m, hmodel⟩).isTypeEntry hlists
    rw [hentry.isMistyped_iff]
    constructor
    · intro hempty
      obtain rfl := hempty.key_eq
      exact ⟨hempty, hmodel.exists_root hlists hempty⟩
    · exact IsOverlooked.isEmptyBase

/-- A struct whose base is written as some literal, and an enumeration with further fields. -/
def literalText (base further : String) : String :=
  "\x7b\"types\":[" ++
  "\x7b\"kind\":\"struct\",\"name\":\"box\",\"base\":" ++ base ++ "\x7d," ++
  "\x7b\"kind\":\"enum\",\"name\":\"item\"" ++ further ++ "\x7d]\x7d"

/-- The fields of the struct and of the enumeration in such a text, given the value of the literal
and the further fields. -/
def literalEntries (base : Value) (further : Fields) : Fields × Fields :=
  let text (key value : String) : Text × Value :=
    (Text.ofString key, .text (Text.ofString value))
  ([text "kind" "struct", text "name" "box", (Text.ofString "base", base)],
    [text "kind" "enum", text "name" "item"] ++ further)

/-- The document in such a text. -/
def literalDocument (base : Value) (further : Fields) : Value :=
  let (box, item) := literalEntries base further
  .object [(Text.ofString "types", .array [.object box, .object item])]

theorem readDocument_trueBase :
    Json.readDocument (literalText "true" "").toList = .ok (literalDocument (.bool true) []) := by
  cbv

theorem readDocument_falseBase :
    Json.readDocument (literalText "false" "").toList = .ok (literalDocument (.bool false) []) := by
  cbv

theorem readDocument_trueValues :
    Json.readDocument (literalText "false" ",\"values\":true").toList =
      .ok (literalDocument (.bool false) [(Text.ofString "values", .bool true)]) := by
  cbv

/-- The struct with the base that is false is read as one that extends nothing. -/
theorem ofText_falseBase : Model.ofText (literalText "false" "") =
    .ok ⟨[.struct ⟨⟨["box"]⟩, none, [], []⟩, .enumeration ⟨⟨["item"]⟩, []⟩]⟩ := by
  have hread : (Model.ofText (literalText "false" "")).toOption =
      some ⟨[.struct ⟨⟨["box"]⟩, none, [], []⟩, .enumeration ⟨⟨["item"]⟩, []⟩]⟩ := by
    decide +kernel
  exact toOption_eq_some_iff.mp hread

section Literals

variable (base : Value) (further : Fields)

theorem lists_box : ∃ entries,
    Lists (literalDocument base further) entries 0 (literalEntries base further).1 :=
  ⟨_, _, rfl, rfl, rfl⟩

theorem lists_item : ∃ entries,
    Lists (literalDocument base further) entries 1 (literalEntries base further).2 :=
  ⟨_, _, rfl, rfl, rfl⟩

/-- A truth value is no base. -/
theorem isMistyped_boolBase (b : Bool) (entries : List Value) :
    IsMistyped entries (literalEntries (.bool b) further).1 "base" (.bool b) := by
  refine .base rfl rfl (by simp) ?_
  rintro ⟨_, ⟨⟩⟩

end Literals

/-- A base that is true and, beside a base that is false, a truth value for a list are reported; the
base that is false is not when it stands alone. -/
theorem Model.refuses_mistyped_literalBase :
    (∃ fault, ofText (literalText "true" "") = .error (.description fault)) ∧
      (∃ fault, ofText (literalText "false" ",\"values\":true") = .error (.description fault)) ∧
      ∃ m, ofText (literalText "false" "") = .ok m ∧
        IsOverlooked m 0 (literalEntries (.bool false) []).1 "base" (.bool false) := by
  refine ⟨?_, ?_, ?_⟩
  · obtain ⟨entries, hlists⟩ := lists_box (.bool true) []
    refine (refuses_mistyped readDocument_trueBase hlists "base" (.bool true)).1
      (isMistyped_boolBase [] true entries) ?_
    rintro ⟨-, -, -, -, ⟨⟩⟩
  · obtain ⟨entries, hlists⟩ := lists_item (.bool false) [(Text.ofString "values", .bool true)]
    refine (refuses_mistyped readDocument_trueValues hlists "values" (.bool true)).1
      (.values rfl rfl ?_) ?_
    · rintro ⟨_, ⟨⟩⟩
    · exact fun hempty => absurd hempty.key_eq (by decide)
  · obtain ⟨entries, hlists⟩ := lists_box (.bool false) []
    have hoverlooked := (refuses_mistyped readDocument_falseBase hlists "base" (.bool false)).2 _
      ofText_falseBase
    exact ⟨_, ofText_falseBase, hoverlooked.mp (isMistyped_boolBase [] false entries)⟩

/-- A base that is false is of a wrong type, and yet the text is accepted. -/
theorem Model.not_refuses_falseBase :
    Json.readDocument (literalText "false" "").toList = .ok (literalDocument (.bool false) []) ∧
      (∃ entries, Lists (literalDocument (.bool false) []) entries 0
          (literalEntries (.bool false) []).1 ∧
        IsMistyped entries (literalEntries (.bool false) []).1 "base" (.bool false)) ∧
      ∃ m, ofText (literalText "false" "") = .ok m := by
  obtain ⟨entries, hlists⟩ := lists_box (.bool false) []
  exact ⟨readDocument_falseBase, ⟨entries, hlists, isMistyped_boolBase [] false entries⟩, _,
    ofText_falseBase⟩

end RubyClasses
