import RubyClasses.Model.Description
import RubyClasses.Proofs.Fallible
import RubyClasses.Proofs.Pointwise
import RubyClasses.Proofs.Reference.Denotation

/-! # What descriptions describe

A document describes a model when its entries describe the declarations one by one: an entry gives
a declaration its kind and its name, and every reference in the entry denotes the type that stands
at the same place of the declaration. Reading a document finds the model that it describes, and
fails when there is none.
-/

namespace RubyClasses

open Json (Value)

/-- The names of the declared types. -/
def Model.names (m : Model) : List Name := m.declarations.map Declaration.name

namespace Description

/-- A value is a text that spells a name. -/
def Spells (v : Value) (name : Name) : Prop :=
  ∃ t, v = .text t ∧ Name.ofText? t.toString = some name

/-- A field holds a list of items; an absent one holds none. -/
def HasItems (fields : Fields) (key : String) (items : List Value) : Prop :=
  Value.field? fields key = some (.array items) ∨ Value.field? fields key = none ∧ items = []

/-- An entry of a list of members describes a member. -/
def DescribesMember (names : List Name) (entry : Value) (member : Member) : Prop :=
  ∃ fields name type, entry = .object fields ∧
    Value.field? fields "name" = some name ∧ Spells name member.name ∧
    Value.field? fields "type" = some (.text type) ∧
    Reference.Denotes names type.toChars member.type

/-- A field lists the descriptions of some members. -/
def DescribesMembers (names : List Name) (fields : Fields) (key : String)
    (members : List Member) : Prop :=
  ∃ items, HasItems fields key items ∧ List.Forall₂ (DescribesMember names) items members

/-- The fields of an entry describe the base of a struct. -/
inductive DescribesBase (m : Model) (fields : Fields) : Option TypeRef → Prop
  /-- A field that is absent or empty describes that there is none. -/
  | absent (hbase : present? fields "base" = none) : DescribesBase m fields none
  /-- Any other base has to be a reference that denotes a struct. -/
  | struct {type index} (hbase : Value.field? fields "base" = some (.text type))
      (hdenotes : Reference.Denotes m.names type.toChars (.declared index))
      (hstruct : (m.struct? index).isSome) : DescribesBase m fields (some (.declared index))

/-- An entry describes a declaration of a model. -/
inductive Describes (m : Model) : Value → Declaration → Prop
  | struct {fields name s}
      (hkind : Value.field? fields "kind" = some (.text (Text.ofString "struct")))
      (hname : Value.field? fields "name" = some name) (hspells : Spells name s.name)
      (hbase : DescribesBase m fields s.base)
      (hattributes : DescribesMembers m.names fields "attributes" s.attributes)
      (hlinks : DescribesMembers m.names fields "links" s.links) :
      Describes m (.object fields) (.struct s)
  | enumeration {fields name items e}
      (hkind : Value.field? fields "kind" = some (.text (Text.ofString "enum")))
      (hname : Value.field? fields "name" = some name) (hspells : Spells name e.name)
      (hitems : HasItems fields "values" items) (hvalues : List.Forall₂ Spells items e.values) :
      Describes m (.object fields) (.enumeration e)

/-- A document describes a model. -/
def DescribesModel (document : Value) (m : Model) : Prop :=
  ∃ fields entries, document = .object fields ∧
    Value.field? fields "types" = some (.array entries) ∧
    List.Forall₂ (Describes m) entries m.declarations ∧ m.names.Nodup

theorem present?_eq_some_iff {fields : Fields} {key : String} {v : Value} :
    present? fields key = some v ↔ Value.field? fields key = some v ∧ v.isEmpty = false := by
  unfold present?
  cases Value.field? fields key with
  | none => simp
  | some found =>
      dsimp only
      by_cases hempty : found.isEmpty = true
      · rw [if_pos hempty]
        constructor
        · rintro ⟨⟩
        · rintro ⟨⟨rfl⟩, hfull⟩
          rw [hempty] at hfull
          cases hfull
      · rw [if_neg hempty]
        constructor
        · rintro ⟨⟩
          exact ⟨rfl, Bool.eq_false_iff.mpr hempty⟩
        · exact And.left

/-- A text that spells a name is not empty, so it is never taken for absent. -/
theorem Spells.isEmpty_eq_false {v : Value} {name : Name} (h : Spells v name) :
    v.isEmpty = false := by
  obtain ⟨t, rfl, hname⟩ := h
  cases t with
  | nil =>
      have hnone : Name.ofText? (Text.toString []) = none := by decide
      rw [hnone] at hname
      cases hname
  | cons => rfl

/-- A name is read from a value exactly if the value is a text that spells it. -/
theorem nameOf_eq_ok_iff {v : Value} {name : Name} : nameOf v = .ok name ↔ Spells v name := by
  cases v with
  | text t =>
      simp only [nameOf, Spells, Value.text.injEq, exists_eq_left']
      cases Name.ofText? t.toString <;> simp
  | _ => simp [nameOf, Spells]

theorem itemsOf_eq_ok_iff {fields : Fields} {key : String} {type : Text} {items : List Value} :
    itemsOf fields key type = .ok items ↔ HasItems fields key items := by
  unfold itemsOf HasItems
  split
  next h => simp [h, eq_comm]
  next found h => simp [h]
  next v hnot h =>
    simp only [reduceCtorEq, h, Option.some.injEq, false_and, or_false, false_iff]
    rintro rfl
    exact hnot _ rfl

section References

variable {names : List Name}

/-- Where names are distinct, a type is read from a value exactly if the value is a text that
denotes it. -/
theorem typeOf_eq_ok_iff (hdistinct : names.Nodup) {type : Text} {v : Value} {ref : TypeRef} :
    typeOf names type v = .ok ref ↔
      ∃ t, v = .text t ∧ Reference.Denotes names t.toChars ref := by
  cases v with
  | text t =>
      simp only [typeOf, Value.text.injEq, exists_eq_left',
        ← Reference.resolve?_eq_some_iff hdistinct]
      cases (Reference.ofChars t.toChars).resolve? names <;> simp
  | _ => simp [typeOf]

/-- The empty text denotes nothing. -/
theorem isEmpty_eq_false_of_denotes {t : Text} {ref : TypeRef}
    (h : Reference.Denotes names t.toChars ref) : (Value.text t).isEmpty = false := by
  cases t with
  | cons => rfl
  | nil =>
      cases h with
      | list hbrackets =>
          have hlength := congrArg List.length hbrackets
          simp [Text.toChars, Text.strip, Text.stripStart] at hlength
      | @primitive _ kind hkeyword => cases kind <;> exact absurd hkeyword (by decide)
      | declared _ _ hname =>
          have hnone : Name.ofText? (String.ofList (Text.strip (Text.toChars []))) = none := by
            decide
          rw [hnone] at hname
          cases hname

/-- A member is read from an entry exactly if the entry describes it. -/
theorem memberOf_eq_ok_iff (hdistinct : names.Nodup) {type : Text} {entry : Value}
    {member : Member} :
    memberOf names type entry = .ok member ↔ DescribesMember names entry member := by
  constructor
  · intro h
    unfold memberOf at h
    split at h
    next fields =>
      split at h
      next name ref hname href =>
        obtain ⟨n, hn, h⟩ := bind_eq_ok_iff.mp h
        obtain ⟨r, hr, h⟩ := bind_eq_ok_iff.mp h
        cases h
        obtain ⟨t, rfl, hdenotes⟩ := (typeOf_eq_ok_iff hdistinct).mp hr
        exact ⟨fields, name, t, rfl, (present?_eq_some_iff.mp hname).1, nameOf_eq_ok_iff.mp hn,
          (present?_eq_some_iff.mp href).1, hdenotes⟩
      next => cases h
    next => cases h
  · rintro ⟨fields, name, t, rfl, hname, hspells, htype, hdenotes⟩
    have hnamed := present?_eq_some_iff.mpr ⟨hname, hspells.isEmpty_eq_false⟩
    have htyped := present?_eq_some_iff.mpr ⟨htype, isEmpty_eq_false_of_denotes hdenotes⟩
    simp only [memberOf, hnamed, htyped]
    rw [bind_eq_ok_iff]
    refine ⟨member.name, nameOf_eq_ok_iff.mpr hspells, ?_⟩
    rw [bind_eq_ok_iff]
    exact ⟨member.type, (typeOf_eq_ok_iff hdistinct).mpr ⟨t, rfl, hdenotes⟩, rfl⟩

end References

/-- A heading is read from an entry. -/
structure Heads (entry : Value) (heading : Heading) : Prop where
  isObject : entry = .object heading.fields
  name : Value.field? heading.fields "name" = some (.text heading.spelled)
  spells : Name.ofText? heading.spelled.toString = some heading.name
  kind : Value.field? heading.fields "kind" = some (.text (Text.ofString "struct")) ∧
      heading.values = none ∨
    Value.field? heading.fields "kind" = some (.text (Text.ofString "enum")) ∧
      ∃ items values, HasItems heading.fields "values" items ∧
        List.Forall₂ Spells items values ∧ heading.values = some values

theorem text_of_getD_null {found : Option Value} {t : Text} (h : found.getD .null = .text t) :
    found = some (.text t) := by
  cases found with
  | none => cases h
  | some v => exact congrArg some h

/-- A heading is read from an entry that has it, unless its name is that of an earlier one. -/
theorem headingOf_eq_ok_iff {earlier : List Name} {entry : Value} {heading : Heading} :
    headingOf earlier entry = .ok heading ↔ heading.name ∉ earlier ∧ Heads entry heading := by
  constructor
  · intro h
    unfold headingOf at h
    split at h
    next fields =>
      split at h
      next => cases h
      next spelled hname =>
        obtain ⟨name, hn, h⟩ := bind_eq_ok_iff.mp h
        obtain ⟨_, ⟨⟩, hspells⟩ := nameOf_eq_ok_iff.mp hn
        have hfield := (present?_eq_some_iff.mp hname).1
        dsimp only at h
        split at h
        next => cases h
        next hnew =>
          split at h
          next k hkind =>
            have hkind := text_of_getD_null hkind
            split at h
            next hk =>
              cases h
              exact ⟨hnew, rfl, hfield, hspells, .inl ⟨hk ▸ hkind, rfl⟩⟩
            next =>
              split at h
              next hk =>
                obtain ⟨items, hitems, h⟩ := bind_eq_ok_iff.mp h
                obtain ⟨values, hvalues, h⟩ := bind_eq_ok_iff.mp h
                cases h
                refine ⟨hnew, rfl, hfield, hspells, .inr ⟨hk ▸ hkind, items, values,
                  itemsOf_eq_ok_iff.mp hitems, ?_, rfl⟩⟩
                exact (mapM_eq_ok_iff.mp hvalues).imp fun _ _ => nameOf_eq_ok_iff.mp
              next => cases h
          next => cases h
      next => cases h
    next => cases h
  · rintro ⟨hnew, rfl, hname, hspells, hkind⟩
    have hspells' : Spells (.text heading.spelled) heading.name := ⟨_, rfl, hspells⟩
    have hnamed := present?_eq_some_iff.mpr ⟨hname, hspells'.isEmpty_eq_false⟩
    simp only [headingOf, hnamed]
    rw [bind_eq_ok_iff]
    refine ⟨heading.name, nameOf_eq_ok_iff.mpr hspells', ?_⟩
    rw [if_neg hnew]
    rcases hkind with ⟨hkind, hvalues⟩ | ⟨hkind, items, values, hitems, hspell, hvalues⟩
    · rw [hkind, ← hvalues]
      rfl
    · have hdiffer : Text.ofString "enum" ≠ Text.ofString "struct" := by decide
      rw [hkind]
      simp only [Option.getD_some, if_neg hdiffer, if_true]
      rw [bind_eq_ok_iff]
      refine ⟨items, itemsOf_eq_ok_iff.mpr hitems, bind_eq_ok_iff.mpr ⟨values, ?_, ?_⟩⟩
      · exact mapM_eq_ok_iff.mpr (hspell.imp fun _ _ => nameOf_eq_ok_iff.mpr)
      · rw [← hvalues]
        rfl

/-- The headings of a list of entries have distinct names, also apart from the earlier ones. -/
theorem headingsOf_eq_ok_iff {earlier : List Name} {entries : List Value}
    {headings : List Heading} :
    headingsOf earlier entries = .ok headings ↔
      List.Forall₂ Heads entries headings ∧ (headings.map Heading.name).Nodup ∧
        ∀ heading ∈ headings, heading.name ∉ earlier := by
  induction entries generalizing earlier headings with
  | nil => cases headings <;> simp [headingsOf]
  | cons entry rest ih =>
      rw [headingsOf, bind_eq_ok_iff, List.forall₂_cons_left_iff]
      constructor
      · rintro ⟨heading, hhead, h⟩
        obtain ⟨others, hrest, h⟩ := bind_eq_ok_iff.mp h
        cases h
        obtain ⟨hnew, hheads⟩ := headingOf_eq_ok_iff.mp hhead
        obtain ⟨hothers, hdistinct, hlater⟩ := ih.mp hrest
        refine ⟨⟨heading, others, hheads, hothers, rfl⟩, ?_, ?_⟩
        · refine List.nodup_cons.mpr ⟨?_, hdistinct⟩
          intro hmem
          obtain ⟨other, hother, heq⟩ := List.mem_map.mp hmem
          exact hlater other hother (by simp [heq])
        · intro other hother
          rcases List.mem_cons.mp hother with rfl | hother
          · exact hnew
          · exact fun hmem => hlater other hother (List.mem_append_left _ hmem)
      · rintro ⟨⟨heading, others, hheads, hothers, rfl⟩, hdistinct, hlater⟩
        obtain ⟨hfirst, hdistinct⟩ := List.nodup_cons.mp hdistinct
        refine ⟨heading, headingOf_eq_ok_iff.mpr ⟨hlater _ List.mem_cons_self, hheads⟩, ?_⟩
        refine bind_eq_ok_iff.mpr ⟨others, ih.mpr ⟨hothers, hdistinct, ?_⟩, rfl⟩
        intro other hother hmem
        rcases List.mem_append.mp hmem with hmem | hmem
        · exact hlater other (List.mem_cons_of_mem _ hother) hmem
        · rw [List.mem_singleton.mp hmem |>.symm] at hfirst
          exact hfirst (List.mem_map_of_mem hother)

/-- The rest of an entry describes what its heading does not say about a declaration. -/
def Completes (m : Model) (heading : Heading) : Declaration → Prop
  | .struct s => heading.values = none ∧ s.name = heading.name ∧
      DescribesBase m heading.fields s.base ∧
      DescribesMembers m.names heading.fields "attributes" s.attributes ∧
      DescribesMembers m.names heading.fields "links" s.links
  | .enumeration e => heading.values = some e.values ∧ e.name = heading.name

/-- What an entry describes is said by its heading and by the rest of the entry. -/
theorem describes_eq_comp (m : Model) : Describes m = Relation.Comp Heads (Completes m) := by
  funext entry d
  refine propext ⟨?_, ?_⟩
  · rintro (⟨hkind, hname, ⟨t, rfl, hspells⟩, hbase, hattributes, hlinks⟩ |
      ⟨hkind, hname, ⟨t, rfl, hspells⟩, hitems, hvalues⟩)
    · exact ⟨⟨_, t, none, _⟩, ⟨rfl, hname, hspells, .inl ⟨hkind, rfl⟩⟩,
        rfl, rfl, hbase, hattributes, hlinks⟩
    · exact ⟨⟨_, t, some _, _⟩,
        ⟨rfl, hname, hspells, .inr ⟨hkind, _, _, hitems, hvalues, rfl⟩⟩, rfl, rfl⟩
  · rintro ⟨heading, ⟨rfl, hname, hspells, hkind⟩, hrest⟩
    cases d with
    | struct s =>
        obtain ⟨hnone, heq, hbase, hattributes, hlinks⟩ := hrest
        rcases hkind with ⟨hkind, -⟩ | ⟨-, _, _, -, -, hsome⟩
        · exact .struct hkind hname ⟨_, rfl, heq ▸ hspells⟩ hbase hattributes hlinks
        · rw [hnone] at hsome
          cases hsome
    | enumeration e =>
        obtain ⟨hsome, heq⟩ := hrest
        rcases hkind with ⟨-, hnone⟩ | ⟨hkind, _, _, hitems, hvalues, hsame⟩
        · rw [hsome] at hnone
          cases hnone
        · rw [hsome] at hsame
          cases hsame
          exact .enumeration hkind hname ⟨_, rfl, heq ▸ hspells⟩ hitems hvalues

section Bodies

variable {m : Model} {headings : List Heading}

/-- The headings of a model tell its names and which of its declarations are structs. -/
structure HeadModel (headings : List Heading) (m : Model) : Prop where
  names : headings.map Heading.name = m.names
  structs : ∀ index, denotesStruct headings (.declared index) = (m.struct? index).isSome

/-- A base is read from a heading exactly if its fields describe it. -/
theorem baseOf_eq_ok_iff (hheads : HeadModel headings m) (hdistinct : m.names.Nodup)
    {heading : Heading} {base : Option TypeRef} :
    baseOf headings heading = .ok base ↔ DescribesBase m heading.fields base := by
  unfold baseOf
  rw [hheads.names]
  split
  next hnone =>
    constructor
    · rintro ⟨⟩
      exact .absent hnone
    · intro h
      cases h with
      | absent => rfl
      | struct hbase hdenotes =>
          have hsome := present?_eq_some_iff.mpr ⟨hbase, isEmpty_eq_false_of_denotes hdenotes⟩
          rw [hnone] at hsome
          cases hsome
  next t hsome =>
    rw [bind_eq_ok_iff]
    constructor
    · rintro ⟨ref, href, h⟩
      obtain ⟨_, ⟨⟩, hdenotes⟩ := (typeOf_eq_ok_iff hdistinct).mp href
      split at h
      next hstruct =>
        cases h
        cases ref with
        | declared index =>
            rw [hheads.structs] at hstruct
            exact .struct (present?_eq_some_iff.mp hsome).1 hdenotes hstruct
        | _ => cases hstruct
      next => cases h
    · intro h
      cases h with
      | absent hnone =>
          rw [hsome] at hnone
          cases hnone
      | struct hbase hdenotes hstruct =>
          rw [(present?_eq_some_iff.mp hsome).1] at hbase
          cases hbase
          refine ⟨_, (typeOf_eq_ok_iff hdistinct).mpr ⟨t, rfl, hdenotes⟩, ?_⟩
          rw [if_pos (by rw [hheads.structs, hstruct])]
          rfl
  next v hnot hsome =>
    simp only [reduceCtorEq, false_iff]
    intro h
    cases h with
    | absent hnone =>
        rw [hsome] at hnone
        cases hnone
    | struct hbase =>
        rw [(present?_eq_some_iff.mp hsome).1] at hbase
        cases hbase
        exact hnot _ rfl

theorem members_eq_ok_iff (hheads : HeadModel headings m) (hdistinct : m.names.Nodup)
    {heading : Heading} {key : String} {members : List Member} :
    (itemsOf heading.fields key heading.spelled >>= fun items =>
        items.mapM (memberOf (headings.map Heading.name) heading.spelled)) = .ok members ↔
      DescribesMembers m.names heading.fields key members := by
  rw [hheads.names, bind_eq_ok_iff]
  refine exists_congr fun items => and_congr itemsOf_eq_ok_iff ?_
  rw [mapM_eq_ok_iff]
  simp only [memberOf_eq_ok_iff hdistinct]

/-- A declaration is read from a heading exactly if the rest of the entry describes it. -/
theorem declarationOf_eq_ok_iff (hheads : HeadModel headings m) (hdistinct : m.names.Nodup)
    {heading : Heading} {d : Declaration} :
    declarationOf headings heading = .ok d ↔ Completes m heading d := by
  unfold declarationOf
  split
  next values hvalues =>
    cases d with
    | struct s => simp [Completes, hvalues]
    | enumeration e =>
        obtain ⟨name, found⟩ := e
        simp [Completes, hvalues, and_comm, eq_comm]
  next hvalues =>
    dsimp only
    rw [bind_eq_ok_iff]
    simp only [baseOf_eq_ok_iff hheads hdistinct]
    constructor
    · rintro ⟨base, hbase, h⟩
      obtain ⟨attributes, hattributes, h⟩ := bind_eq_ok_iff.mp h
      obtain ⟨links, hlinks, h⟩ := bind_eq_ok_iff.mp h
      cases h
      exact ⟨hvalues, rfl, hbase, (members_eq_ok_iff hheads hdistinct).mp hattributes,
        (members_eq_ok_iff hheads hdistinct).mp hlinks⟩
    · intro h
      cases d with
      | enumeration e =>
          have hsome := h.1
          rw [hvalues] at hsome
          cases hsome
      | struct s =>
          obtain ⟨-, hname, hbase, hattributes, hlinks⟩ := h
          refine ⟨s.base, hbase, ?_⟩
          refine bind_eq_ok_iff.mpr
            ⟨s.attributes, (members_eq_ok_iff hheads hdistinct).mpr hattributes, ?_⟩
          refine bind_eq_ok_iff.mpr
            ⟨s.links, (members_eq_ok_iff hheads hdistinct).mpr hlinks, ?_⟩
          rw [← hname]
          rfl

end Bodies

/-- Whether a declaration is a struct. -/
def isStruct : Declaration → Bool
  | .struct _ => true
  | .enumeration _ => false

theorem struct?_isSome (m : Model) (index : Nat) :
    (m.struct? index).isSome = ((m.declarations.map isStruct)[index]?).getD false := by
  rw [List.getElem?_map, Model.struct?]
  split
  next h => simp [h, isStruct]
  next hnot =>
    cases hd : m.declarations[index]? with
    | none => rfl
    | some d =>
        cases d with
        | struct s => exact absurd hd (hnot s)
        | enumeration e => rfl

/-- Declarations that complete headings have their names and kinds. -/
theorem headModel_of_forall₂ {headings : List Heading} {m : Model}
    (h : List.Forall₂ (fun heading d => d.name = heading.name ∧
      heading.values.isNone = isStruct d) headings m.declarations) : HeadModel headings m where
  names := map_eq_map_of_forall₂ h fun _ _ h => h.1.symm
  structs index := by
    rw [struct?_isSome, ← map_eq_map_of_forall₂ h fun _ _ h => h.2, List.getElem?_map]
    rfl

theorem Completes.head {m : Model} {heading : Heading} {d : Declaration}
    (h : Completes m heading d) :
    d.name = heading.name ∧ heading.values.isNone = isStruct d := by
  cases d with
  | struct s => exact ⟨h.2.1, by rw [h.1]; rfl⟩
  | enumeration e => exact ⟨h.2, by rw [h.1]; rfl⟩

/-- Reading the rest of an entry does not change what its heading said. -/
theorem declarationOf_head {headings : List Heading} {heading : Heading} {d : Declaration}
    (h : declarationOf headings heading = .ok d) :
    d.name = heading.name ∧ heading.values.isNone = isStruct d := by
  unfold declarationOf at h
  split at h
  next values hvalues =>
    cases h
    exact ⟨rfl, by rw [hvalues]; rfl⟩
  next hvalues =>
    obtain ⟨base, -, h⟩ := bind_eq_ok_iff.mp h
    obtain ⟨attributes, -, h⟩ := bind_eq_ok_iff.mp h
    obtain ⟨links, -, h⟩ := bind_eq_ok_iff.mp h
    cases h
    exact ⟨rfl, by rw [hvalues]; rfl⟩

/-- Reading a document finds the model that it describes. -/
theorem ofDocument_eq_ok_iff {document : Value} {m : Model} :
    Model.ofDocument document = .ok m ↔ DescribesModel document m := by
  constructor
  · intro h
    unfold Model.ofDocument at h
    split at h
    next fields =>
      split at h
      next entries htypes =>
        obtain ⟨headings, hheadings, h⟩ := bind_eq_ok_iff.mp h
        obtain ⟨ds, hds, h⟩ := bind_eq_ok_iff.mp h
        cases h
        obtain ⟨hentries, hdistinct, -⟩ := headingsOf_eq_ok_iff.mp hheadings
        have hbodies := mapM_eq_ok_iff.mp hds
        -- bodies keep the names and kinds of their headings, which decide on references
        have hheads : HeadModel headings ⟨ds⟩ :=
          headModel_of_forall₂ (hbodies.imp fun _ _ => declarationOf_head)
        rw [hheads.names] at hdistinct
        refine ⟨fields, entries, rfl, htypes, ?_, hdistinct⟩
        rw [describes_eq_comp, forall₂_comp_iff]
        exact ⟨headings, hentries,
          hbodies.imp fun _ _ => (declarationOf_eq_ok_iff hheads hdistinct).mp⟩
      next => cases h
    next => cases h
  · rintro ⟨fields, entries, rfl, htypes, hentries, hdistinct⟩
    rw [describes_eq_comp, forall₂_comp_iff] at hentries
    obtain ⟨headings, hentries, hbodies⟩ := hentries
    have hheads := headModel_of_forall₂ (hbodies.imp fun _ _ => Completes.head)
    have hheadings : headingsOf [] entries = .ok headings :=
      headingsOf_eq_ok_iff.mpr ⟨hentries, hheads.names ▸ hdistinct, fun _ _ h => by cases h⟩
    have hds : headings.mapM (declarationOf headings) = .ok m.declarations :=
      mapM_eq_ok_iff.mpr
        (hbodies.imp fun _ _ => (declarationOf_eq_ok_iff hheads hdistinct).mpr)
    simp only [Model.ofDocument, htypes]
    refine bind_eq_ok_iff.mpr ⟨headings, hheadings, ?_⟩
    exact bind_eq_ok_iff.mpr ⟨m.declarations, hds, rfl⟩

end Description

end RubyClasses
