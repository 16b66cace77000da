import RubyClasses.Model.Listing
import RubyClasses.Proofs.Description.Mistyped
import RubyClasses.Proofs.Name.SnakeCase

/-! # Spellings of references

A declared type is found by every text that spells its name, in whatever case and with whatever
separators between the words. The one exception are the keywords: a text that is a keyword, blanks
around it left aside, means the built-in type also where a declared type has that name. Such a type
is found by every other spelling of its name.
-/

namespace RubyClasses

open Json (Value)

theorem Name.isWordChar_of_isBlank {c : Char} (h : Text.isBlank c = true) :
    Name.isWordChar c = false := by
  have hword : Name.isWordChar c = true → Text.isBlank c = false :=
    Name.of_isWordChar (P := fun c => Text.isBlank c = false) (by decide +kernel)
  rw [← Bool.not_eq_true]
  intro hc
  rw [hword hc] at h
  cases h

/-- Blanks around a text belong to no word. -/
theorem Name.ofText?_strip (cs : List Char) :
    Name.ofText? (String.ofList (Text.strip cs)) = Name.ofText? (String.ofList cs) := by
  obtain ⟨before, after, hblanks, hcs⟩ := Text.exists_strip_between cs
  have hwords : Name.wordsOf (Text.strip cs) = Name.wordsOf cs := by
    conv_rhs => rw [hcs]
    exact (Name.wordsOf_between (fun c hc => Name.isWordChar_of_isBlank (hblanks c hc)) _).symm
  unfold Name.ofText?
  rw [String.toList_ofList, String.toList_ofList, hwords]

/-- A keyword is a name of one word. -/
theorem Primitive.ofText?_keyword (kind : Primitive) :
    Name.ofText? kind.keyword = some ⟨[kind.keyword]⟩ := by
  cases kind <;> decide +kernel

namespace Reference

/-- A reference ends with a pair of brackets, blanks behind it left aside. -/
def EndsInBrackets (r : Text) : Prop := ['[', ']'] <:+ Text.strip r.toChars

/-- A reference is a keyword, blanks around it left aside. -/
def IsKeyword (r : Text) (kind : Primitive) : Prop :=
  String.ofList (Text.strip r.toChars) = kind.keyword

instance (r : Text) : Decidable (EndsInBrackets r) :=
  inferInstanceAs (Decidable (_ <:+ _))

instance (r : Text) (kind : Primitive) : Decidable (IsKeyword r kind) :=
  inferInstanceAs (Decidable (_ = _))

/-- A reference denotes one type only. -/
theorem Denotes.unique {names : List Name} (hdistinct : names.Nodup) {cs : List Char}
    {ref other : TypeRef} (h : Denotes names cs ref) (hother : Denotes names cs other) :
    other = ref := by
  rw [← resolve?_eq_some_iff hdistinct] at h hother
  exact Option.some.inj (hother.symm.trans h)

end Reference

/-- The links of a struct, or its attributes. -/
def Struct.listed (s : Struct) (isLink : Bool) : List Member :=
  if isLink then s.links else s.attributes

/-- The member at a place of a model. -/
def Model.memberAt? (m : Model) (place : Place) : Option Member := do
  let s ← m.struct? place.owner
  (s.listed place.isLink)[place.position]?

namespace Description

/-- A document has a member with a text for its type at a place. -/
def HasTypeAt (document : Value) (place : Place) (r : Text) : Prop :=
  ∃ fields entries entry items member,
    document = .object fields ∧ Value.field? fields "types" = some (.array entries) ∧
    entries[place.owner]? = some (.object entry) ∧ HasKind entry "struct" ∧
    Value.field? entry (if place.isLink then "links" else "attributes") = some (.array items) ∧
    items[place.position]? = some (.object member) ∧
    Value.field? member "type" = some (.text r)

/-- A reference finds a type: resolving it does, for whatever struct, and so does each member that
has it for its type. -/
def Finds (document : Value) (m : Model) (r : Text) (ref : TypeRef) : Prop :=
  (∀ owner, typeOf m.names owner (.text r) = .ok ref) ∧
    ∀ place, HasTypeAt document place r →
      ∃ member, m.memberAt? place = some member ∧ member.type = ref

variable {document : Value} {m : Model}

/-- The member of a model at a place has the type that the document says there. -/
theorem DescribesModel.denotes_at (h : DescribesModel document m) {place : Place} {r : Text}
    (htype : HasTypeAt document place r) : ∃ member, m.memberAt? place = some member ∧
      Reference.Denotes m.names r.toChars member.type := by
  obtain ⟨_, entries, rfl, htypes, hentries, -⟩ := h
  obtain ⟨_, found, entry, items, fields, ⟨⟩, hfound, hentry, hkind, hlist, hitem, hfield⟩ := htype
  rw [htypes] at hfound
  cases hfound
  obtain ⟨d, hd, hdescribes⟩ := exists_getElem?_of_forall₂ hentries hentry
  cases hdescribes with
  | enumeration henum => exact absurd (HasKind.eq henum hkind) (by decide)
  | @struct _ _ s _ _ _ _ hattributes hlinks =>
      have hmembers : DescribesMembers m.names entry
          (if place.isLink then "links" else "attributes") (s.listed place.isLink) := by
        unfold Struct.listed
        split
        · exact hlinks
        · exact hattributes
      obtain ⟨listed, hlisted, hmembers⟩ := hmembers
      rcases hlisted with hlisted | ⟨hnone, -⟩
      · rw [hlist] at hlisted
        cases hlisted
        obtain ⟨member, hmember, _, _, type, ⟨⟩, -, -, htype, hdenotes⟩ :=
          exists_getElem?_of_forall₂ hmembers hitem
        rw [hfield] at htype
        cases htype
        refine ⟨member, ?_, hdenotes⟩
        rw [Model.memberAt?, Model.struct?_eq_some_iff.mpr hd]
        exact hmember
      · rw [hlist] at hnone
        cases hnone

/-- A reference finds what it denotes. -/
theorem DescribesModel.finds (h : DescribesModel document m) {r : Text} {ref : TypeRef}
    (hdenotes : Reference.Denotes m.names r.toChars ref) : Finds document m r ref := by
  have hdistinct : m.names.Nodup := by
    obtain ⟨_, _, -, -, -, hdistinct⟩ := h
    exact hdistinct
  constructor
  · intro owner
    exact (typeOf_eq_ok_iff hdistinct).mpr ⟨r, rfl, hdenotes⟩
  · intro place htype
    obtain ⟨member, hmember, hother⟩ := h.denotes_at htype
    exact ⟨member, hmember, hdenotes.unique hdistinct hother⟩

/-- The words of a name behind an underscore, which no keyword starts with. -/
def marked (name : Name) : Text := Text.ofString ("_" ++ name.toString)

section Marked

variable {name : Name} (hname : name.IsProper)

include hname

theorem strip_marked : Text.strip (marked name).toChars = '_' :: name.toString.toList := by
  have hchars : (marked name).toChars = '_' :: name.toString.toList := by
    rw [marked, Text.toChars_ofString, String.toList_append]
    rfl
  rw [hchars]
  apply Text.strip_eq_self
  intro c hc
  rcases List.mem_cons.mp hc with rfl | hc
  · rfl
  · rcases hname.mem_toString hc with hsmall | rfl
    · have hword := Name.isWordChar_of_isSmallOrDigit hsmall
      rw [← Bool.not_eq_true]
      intro hblank
      rw [Name.isWordChar_of_isBlank hblank] at hword
      cases hword
    · rfl

theorem ofText?_marked : Name.ofText? (marked name).toString = some name := by
  have hwords := Name.wordsOf_append_cons (c := '_') rfl [] name.toString.toList
  rw [Name.wordsOf_nil, List.nil_append, hname.wordsOf_toString] at hwords
  rw [marked, Text.toString_ofString, Name.ofText?_eq_some_iff hname.words_ne_nil,
    String.toList_append]
  exact hwords

theorem not_endsInBrackets_marked : ¬ Reference.EndsInBrackets (marked name) := by
  intro hend
  have hmem : ']' ∈ '_' :: name.toString.toList := by
    rw [← strip_marked hname]
    exact hend.subset (by decide)
  rcases List.mem_cons.mp hmem with heq | hmem
  · cases heq
  · rcases hname.mem_toString hmem with hsmall | heq
    · cases hsmall
    · cases heq

theorem not_isKeyword_marked (kind : Primitive) : ¬ Reference.IsKeyword (marked name) kind := by
  rw [Reference.IsKeyword, strip_marked hname, ← String.toList_inj, String.toList_ofList]
  cases kind <;> exact fun heq => absurd (List.cons.inj heq).1 (by decide)

end Marked

end Description

open Description Reference

/-- In a description that is accepted, every text that spells the name of a declared type finds this
type, unless the text is a keyword: then it finds the built-in type, and only a type whose name is
this one word is passed over. Every declared type is found by some text. -/
theorem Model.findsBySpelling_of_ofText {content : String} {m : Model}
    (h : ofText content = .ok m) :
    ∃ document, Json.readDocument content.toList = .ok document ∧
      ∀ index d, m.declarations[index]? = some d →
        (∀ r : Text, ¬ EndsInBrackets r → Name.ofText? r.toString = some d.name →
          ((∀ kind, ¬ IsKeyword r kind) → Finds document m r (.declared index)) ∧
            ∀ kind, IsKeyword r kind →
              d.name = ⟨[kind.keyword]⟩ ∧ Finds document m r (.primitive kind)) ∧
        ∃ r : Text, ¬ EndsInBrackets r ∧ Name.ofText? r.toString = some d.name ∧
          Finds document m r (.declared index) := by
  obtain ⟨document, hread, hmodel⟩ := ofText_eq_ok_iff.mp h
  refine ⟨document, hread, ?_⟩
  intro index d hd
  have hindex : m.names[index]? = some d.name := by rw [names, List.getElem?_map, hd]; rfl
  have hname := hmodel.hasProperNames.declaration d (List.mem_of_getElem? hd)
  have hdeclared : ∀ r : Text, ¬ EndsInBrackets r → Name.ofText? r.toString = some d.name →
      (∀ kind, ¬ IsKeyword r kind) → Finds document m r (.declared index) := by
    intro r hbrackets hspells hkeyword
    rw [Text.toString, ← Name.ofText?_strip] at hspells
    exact hmodel.finds (.declared hbrackets hkeyword hspells hindex)
  constructor
  · intro r hbrackets hspells
    refine ⟨hdeclared r hbrackets hspells, ?_⟩
    intro kind hkeyword
    refine ⟨?_, hmodel.finds (.primitive hkeyword)⟩
    rw [Text.toString, ← Name.ofText?_strip, hkeyword, kind.ofText?_keyword] at hspells
    exact (Option.some.inj hspells).symm
  · have hbrackets := not_endsInBrackets_marked hname
    have hspells := ofText?_marked hname
    exact ⟨marked d.name, hbrackets, hspells,
      hdeclared _ hbrackets hspells (not_isKeyword_marked hname)⟩

/-- An enumeration whose name is a keyword, and a struct that refers to it and to the built-in
type. -/
def shadowText : String :=
  "\x7b\"types\":[\x7b\"kind\":\"enum\",\"name\":\"String\"\x7d," ++
  "\x7b\"kind\":\"struct\",\"name\":\"box\",\"attributes\":[" ++
  "\x7b\"name\":\"label\",\"type\":\"string\"\x7d," ++
  "\x7b\"name\":\"title\",\"type\":\"String\"\x7d]\x7d]\x7d"

/-- The document in the text. -/
def shadowDocument : Value :=
  let text (key value : String) : Text × Value :=
    (Text.ofString key, .text (Text.ofString value))
  let enumeration := Value.object [text "kind" "enum", text "name" "String"]
  let label := Value.object [text "name" "label", text "type" "string"]
  let title := Value.object [text "name" "title", text "type" "String"]
  let box := Value.object [text "kind" "struct", text "name" "box",
    (Text.ofString "attributes", .array [label, title])]
  .object [(Text.ofString "types", .array [enumeration, box])]

/-- The model that the text describes. -/
def shadowModel : Model where
  declarations := [
    .enumeration ⟨⟨["string"]⟩, []⟩,
    .struct ⟨⟨["box"]⟩, none,
      [⟨⟨["label"]⟩, .primitive .string⟩, ⟨⟨["title"]⟩, .declared 0⟩], []⟩]

theorem readDocument_shadowText :
    Json.readDocument shadowText.toList = .ok shadowDocument := by
  cbv

theorem ofText_shadowText : Model.ofText shadowText = .ok shadowModel := by
  have hread : (Model.ofText shadowText).toOption = some shadowModel := by decide +kernel
  exact toOption_eq_some_iff.mp hread

/-- Both attributes have a text for their type. -/
theorem hasTypeAt_shadowDocument :
    HasTypeAt shadowDocument ⟨1, false, 0⟩ (Text.ofString "string") ∧
      HasTypeAt shadowDocument ⟨1, false, 1⟩ (Text.ofString "String") :=
  ⟨⟨_, _, _, _, _, rfl, rfl, rfl, rfl, rfl, rfl, rfl⟩,
    ⟨_, _, _, _, _, rfl, rfl, rfl, rfl, rfl, rfl, rfl⟩⟩

/-- In capitals, the name finds the enumeration. -/
theorem Model.findsBySpelling_of_ofText_shadowText :
    ofText shadowText = .ok shadowModel ∧
      Finds shadowDocument shadowModel (Text.ofString "String") (.declared 0) ∧
      Finds shadowDocument shadowModel (Text.ofString "string") (.primitive .string) ∧
      ∃ member, shadowModel.memberAt? ⟨1, false, 1⟩ = some member ∧ member.type = .declared 0 := by
  obtain ⟨document, hread, hfinds⟩ := findsBySpelling_of_ofText ofText_shadowText
  rw [readDocument_shadowText] at hread
  cases hread
  obtain ⟨hspellings, -⟩ := hfinds 0 _ rfl
  obtain ⟨hdeclared, -⟩ :=
    hspellings (Text.ofString "String") (by decide +kernel) (by decide +kernel)
  obtain ⟨-, hkeyword⟩ :=
    hspellings (Text.ofString "string") (by decide +kernel) (by decide +kernel)
  have hfound := hdeclared fun kind => by cases kind <;> decide +kernel
  exact ⟨ofText_shadowText, hfound, (hkeyword .string (by decide +kernel)).2,
    hfound.2 _ hasTypeAt_shadowDocument.2⟩

/-- In small letters, the name does not find the enumeration. -/
theorem Model.not_findsBySpelling_shadowText :
    ofText shadowText = .ok shadowModel ∧
      shadowModel.declarations[0]? = some (.enumeration ⟨⟨["string"]⟩, []⟩) ∧
      ¬ EndsInBrackets (Text.ofString "string") ∧
      Name.ofText? (Text.ofString "string").toString = some ⟨["string"]⟩ ∧
      HasTypeAt shadowDocument ⟨1, false, 0⟩ (Text.ofString "string") ∧
      shadowModel.memberAt? ⟨1, false, 0⟩ = some ⟨⟨["label"]⟩, .primitive .string⟩ ∧
      ¬ Finds shadowDocument shadowModel (Text.ofString "string") (.declared 0) := by
  refine ⟨ofText_shadowText, rfl, by decide +kernel, by decide +kernel, hasTypeAt_shadowDocument.1,
    rfl, ?_⟩
  rintro ⟨-, hmembers⟩
  obtain ⟨member, hmember, htype⟩ := hmembers _ hasTypeAt_shadowDocument.1
  cases hmember
  cases htype

end RubyClasses
