import RubyClasses.Proofs.Rearrangement.Translation

/-! # Rearranged descriptions

Two descriptions are rearrangements of each other when they list the same types in any order, the
same values of enumerations in any order, and the same members in any order where their names are
distinct. An entry that is rearranged describes the same declaration up to the order of what is
sorted in the source.
-/

namespace RubyClasses

open Json (Value)

namespace Description

/-- An item of a list of members gives its member a name. -/
def NamesMember (item : Value) (name : Name) : Prop :=
  ∃ fields v, item = .object fields ∧ Value.field? fields "name" = some v ∧ Spells v name

/-- The items of a list give distinct names to their members. -/
def NamesDistinct (items : List Value) : Prop :=
  items.Pairwise fun a b => ∀ name, NamesMember a name → ¬ NamesMember b name

/-- Two values are the same, or objects whose fields differ in related values. -/
def FieldsDiffer (r : Text → Value → Value → Prop) (first second : Value) : Prop :=
  first = second ∨ ∃ fields fields', first = .object fields ∧ second = .object fields' ∧
    List.Forall₂ (fun a b => a.1 = b.1 ∧ r a.1 a.2 b.2) fields fields'

/-- How a field of an entry may differ. -/
inductive EntryField (key : Text) : Value → Value → Prop
  | same (v : Value) : EntryField key v v
  | values {items items' : List Value} (hkey : key = Text.ofString "values")
      (hperm : items.Perm items') : EntryField key (.array items) (.array items')
  | members {items items' : List Value}
      (hkey : key = Text.ofString "attributes" ∨ key = Text.ofString "links")
      (hdistinct : NamesDistinct items) (hperm : items.Perm items') :
      EntryField key (.array items) (.array items')

/-- How a field of a document may differ. -/
inductive DocumentField (key : Text) : Value → Value → Prop
  | same (v : Value) : DocumentField key v v
  | types {entries middle entries' : List Value} (hkey : key = Text.ofString "types")
      (hperm : entries.Perm middle)
      (hentries : List.Forall₂ (FieldsDiffer EntryField) middle entries') :
      DocumentField key (.array entries) (.array entries')

/-- A document differs from another in the order of types, values and members only. -/
def Rearranged : Value → Value → Prop := FieldsDiffer DocumentField

theorem FieldsDiffer.symm {r : Text → Value → Value → Prop}
    (hsymm : ∀ key v w, r key v w → r key w v) {first second : Value}
    (h : FieldsDiffer r first second) : FieldsDiffer r second first := by
  rcases h with rfl | ⟨fields, fields', rfl, rfl, h⟩
  · exact .inl rfl
  · apply Or.inr
    refine ⟨fields', fields, rfl, rfl, h.flip.imp ?_⟩
    intro a b hab
    exact ⟨hab.1.symm, hab.1 ▸ hsymm _ _ _ hab.2⟩

theorem NamesDistinct.perm {items items' : List Value} (h : NamesDistinct items)
    (hperm : items.Perm items') : NamesDistinct items' := by
  apply (hperm.pairwise_iff ?_).mp h
  intro a b hab name hb ha
  exact hab name ha hb

/-- Fields may differ in both directions. -/
theorem EntryField.symm {key : Text} {v w : Value} (h : EntryField key v w) :
    EntryField key w v := by
  cases h with
  | same => exact .same _
  | values hkey hperm => exact .values hkey hperm.symm
  | members hkey hdistinct hperm => exact .members hkey (hdistinct.perm hperm) hperm.symm

theorem DocumentField.symm {key : Text} {v w : Value} (h : DocumentField key v w) :
    DocumentField key w v := by
  cases h with
  | same => exact .same _
  | @types entries middle entries' hkey hperm hentries =>
      have hback : List.Forall₂ (FieldsDiffer EntryField) entries' middle :=
        hentries.flip.imp fun _ _ =>
          FieldsDiffer.symm (r := EntryField) fun _ _ _ => EntryField.symm
      -- backwards the entries change first and move second; these two steps commute
      have hcomp : Relation.Comp (List.Forall₂ (FieldsDiffer EntryField)) List.Perm
          entries' entries := ⟨middle, hback, hperm.symm⟩
      rw [List.forall₂_comp_perm_eq_perm_comp_forall₂] at hcomp
      obtain ⟨other, hother, hrest⟩ := hcomp
      exact .types hkey hother hrest

theorem Rearranged.symm {d d' : Value} (h : Rearranged d d') : Rearranged d' d :=
  FieldsDiffer.symm (r := DocumentField) (fun _ _ _ => DocumentField.symm) h

section Fields

variable {r : Text → Value → Value → Prop} {fields fields' : Fields}

/-- Fields that differ in related values are both absent or both present. -/
theorem field?_of_forall₂
    (h : List.Forall₂ (fun a b => a.1 = b.1 ∧ r a.1 a.2 b.2) fields fields') (key : String) :
    Value.field? fields key = none ∧ Value.field? fields' key = none ∨
      ∃ v w, Value.field? fields key = some v ∧ Value.field? fields' key = some w ∧
        r (Text.ofString key) v w := by
  unfold Value.field?
  induction h with
  | nil => simp
  | @cons a b _ _ hab _ ih =>
      obtain ⟨k, v⟩ := a
      obtain ⟨k', w⟩ := b
      obtain ⟨rfl, hvw⟩ := hab
      by_cases hk : Text.ofString key = k
      · apply Or.inr
        exact ⟨v, w, by simp [hk], by simp [hk], hk ▸ hvw⟩
      · have hkey : (Text.ofString key == k) = false := by simpa using hk
        simpa only [List.lookup_cons, hkey] using ih

/-- A field may differ if it is one of the three that list values or members. -/
theorem EntryField.eq_of_key {key : String} {v w : Value}
    (h : EntryField (Text.ofString key) v w)
    (hkey : Text.ofString key ∉ ["values", "attributes", "links"].map Text.ofString) : v = w := by
  cases h with
  | same => rfl
  | values hvalues _ => exact absurd (hvalues ▸ by decide) hkey
  | members hmembers _ _ => exact absurd (by rcases hmembers with h | h <;> rw [h] <;> decide) hkey

variable (h : List.Forall₂ (fun a b => a.1 = b.1 ∧ EntryField a.1 a.2 b.2) fields fields')

include h

/-- Kinds, names and bases are the same in rearranged entries. -/
theorem field?_eq_of_key (key : String)
    (hkey : Text.ofString key ∉ ["values", "attributes", "links"].map Text.ofString) :
    Value.field? fields' key = Value.field? fields key := by
  rcases field?_of_forall₂ h key with ⟨hnone, hnone'⟩ | ⟨v, w, hv, hw, hvw⟩
  · rw [hnone, hnone']
  · rw [hv, hw, hvw.eq_of_key hkey]

/-- The items of a list that may be rearranged. -/
theorem hasItems_of_forall₂ {key : String} {items : List Value}
    (hitems : HasItems fields key items) :
    ∃ items', HasItems fields' key items' ∧
      EntryField (Text.ofString key) (.array items) (.array items') := by
  rcases field?_of_forall₂ h key with ⟨hnone, hnone'⟩ | ⟨v, w, hv, hw, hvw⟩
  · rcases hitems with hsome | ⟨-, rfl⟩
    · rw [hnone] at hsome
      cases hsome
    · exact ⟨[], .inr ⟨hnone', rfl⟩, .same _⟩
  · rcases hitems with hsome | ⟨hnone, -⟩
    · rw [hv] at hsome
      cases hsome
      cases hvw with
      | same => exact ⟨items, .inl hw, .same _⟩
      | values hkey hperm => exact ⟨_, .inl hw, .values hkey hperm⟩
      | members hkey hdistinct hperm => exact ⟨_, .inl hw, .members hkey hdistinct hperm⟩
    · rw [hv] at hnone
      cases hnone

end Fields

/-- Rearranged values are the same names. -/
theorem exists_values {key : Text} {items items' : List Value} {values : List Name}
    (h : EntryField key (.array items) (.array items'))
    (hvalues : List.Forall₂ Spells items values) :
    ∃ values', List.Forall₂ Spells items' values' ∧ values'.Perm values := by
  have hperm : items'.Perm items := by
    cases h with
    | same => exact .refl _
    | values _ hperm => exact hperm.symm
    | members _ _ hperm => exact hperm.symm
  exact List.perm_comp_forall₂ hperm hvalues

theorem DescribesMember.namesMember {names : List Name} {item : Value} {member : Member}
    (h : DescribesMember names item member) : NamesMember item member.name := by
  obtain ⟨fields, v, _, hitem, hname, hspells, -, -⟩ := h
  exact ⟨fields, v, hitem, hname, hspells⟩

/-- Members that items describe under distinct names have distinct names. -/
theorem NamesDistinct.nodup {names : List Name} {items : List Value} {members : List Member}
    (h : NamesDistinct items) (hmembers : List.Forall₂ (DescribesMember names) items members) :
    (members.map Member.name).Nodup := by
  induction hmembers with
  | nil => exact List.nodup_nil
  | @cons item member rest members hitem hrest ih =>
      obtain ⟨hfirst, hdistinct⟩ := List.pairwise_cons.mp h
      apply List.nodup_cons.mpr
      refine ⟨?_, ih hdistinct⟩
      intro hmem
      obtain ⟨other, hother, heq⟩ := List.mem_map.mp hmem
      obtain ⟨entry, hentry, hdescribes⟩ := exists_left_of_forall₂ hrest hother
      apply hfirst entry hentry member.name hitem.namesMember
      rw [← heq]
      exact hdescribes.namesMember

/-- Rearranged members are the same ones when they are sorted. -/
theorem exists_members {key : String} (hkey : key = "attributes" ∨ key = "links")
    {items items' : List Value} {names : List Name} {members : List Member}
    (h : EntryField (Text.ofString key) (.array items) (.array items'))
    (hmembers : List.Forall₂ (DescribesMember names) items members) :
    ∃ members', List.Forall₂ (DescribesMember names) items' members' ∧
      Name.sortBy Member.name members' = Name.sortBy Member.name members := by
  cases h with
  | same => exact ⟨members, hmembers, rfl⟩
  | values hvalues =>
      rcases hkey with rfl | rfl <;> exact absurd hvalues (by decide)
  | members _ hdistinct hperm =>
      obtain ⟨members', hmembers', hsame⟩ := List.perm_comp_forall₂ hperm.symm hmembers
      exact ⟨members', hmembers',
        (Name.sortBy_eq_of_perm hsame.symm (hdistinct.nodup hmembers)).symm⟩

/-- A rearranged field describes the same members when they are sorted. -/
theorem DescribesMembers.rearranged {key : String} (hkey : key = "attributes" ∨ key = "links")
    {fields fields' : Fields} {names : List Name} {members : List Member}
    (h : List.Forall₂ (fun a b => a.1 = b.1 ∧ EntryField a.1 a.2 b.2) fields fields')
    (hmembers : DescribesMembers names fields key members) :
    ∃ members', DescribesMembers names fields' key members' ∧
      Name.sortBy Member.name members' = Name.sortBy Member.name members := by
  obtain ⟨items, hitems, hmembers⟩ := hmembers
  obtain ⟨items', hitems', hfield⟩ := hasItems_of_forall₂ h hitems
  obtain ⟨members', hmembers', hsorted⟩ := exists_members hkey hfield hmembers
  exact ⟨members', ⟨items', hitems', hmembers'⟩, hsorted⟩

theorem DescribesBase.of_field?_eq {m : Model} {fields fields' : Fields} {base : Option TypeRef}
    (h : DescribesBase m fields base)
    (hfield : Value.field? fields' "base" = Value.field? fields "base") :
    DescribesBase m fields' base := by
  cases h with
  | absent hnone =>
      apply DescribesBase.absent
      rwa [present?, hfield]
  | struct htype hdenotes hstruct => exact .struct (hfield.trans htype) hdenotes hstruct

/-- A rearranged entry describes the same declaration up to sorting. -/
theorem Describes.rearranged {m : Model} {entry entry' : Value} {d : Declaration}
    (h : FieldsDiffer EntryField entry entry') (hd : Describes m entry d) :
    ∃ d', Describes m entry' d' ∧
      Translation.sorting.declaration d' = Translation.sorting.declaration d := by
  rcases h with rfl | ⟨fields, fields', rfl, rfl, h⟩
  · exact ⟨d, hd, rfl⟩
  · have hkind := field?_eq_of_key h "kind" (by decide)
    have hname := field?_eq_of_key h "name" (by decide)
    have hbased := field?_eq_of_key h "base" (by decide)
    cases hd with
    | @struct _ name s hstruct hnamed hspells hbase hattributes hlinks =>
        obtain ⟨attributes, hattributes', hsorted⟩ := hattributes.rearranged (.inl rfl) h
        obtain ⟨links, hlinks', hsorted'⟩ := hlinks.rearranged (.inr rfl) h
        refine ⟨.struct ⟨s.name, s.base, attributes, links⟩, ?_, ?_⟩
        · exact .struct (hkind.trans hstruct) (hname.trans hnamed) hspells
            (hbase.of_field?_eq hbased) hattributes' hlinks'
        · simp only [Translation.declaration, Translation.sorting, hsorted, hsorted']
    | @enumeration _ name items e henum hnamed hspells hitems hvalues =>
        obtain ⟨items', hitems', hfield⟩ := hasItems_of_forall₂ h hitems
        obtain ⟨values, hvalues', hperm⟩ := exists_values hfield hvalues
        refine ⟨.enumeration ⟨e.name, values⟩, ?_, ?_⟩
        · exact .enumeration (hkind.trans henum) (hname.trans hnamed) hspells hitems' hvalues'
        · simp only [Translation.declaration, Translation.sorting, Name.sortBy_id_eq_of_perm hperm]

end Description

end RubyClasses
