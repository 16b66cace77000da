import RubyClasses.Proofs.Rearrangement.Documents

/-! # Descriptions of relabeled models

When the entries of a description change their order, the declarations get other indexes and the
references follow them. The description then describes the relabeled model, because a reference
denotes its declaration by name.
-/

namespace RubyClasses

open Json (Value)

namespace Description

/-- The declarations of one model have the names and the kinds of the other at other indexes. -/
structure HeadsAgree (f : Nat → Nat) (m m' : Model) : Prop where
  name : ∀ i, m'.names[f i]? = m.names[i]?
  struct : ∀ i, (m'.struct? (f i)).isSome = (m.struct? i).isSome

variable {f : Nat → Nat} {m m' : Model} (hheads : HeadsAgree f m m')

/-- What a reference denotes moves along with the names. -/
theorem denotes_relabel {names names' : List Name} (hnames : ∀ i, names'[f i]? = names[i]?)
    {cs : List Char} {ref : TypeRef} (h : Reference.Denotes names cs ref) :
    Reference.Denotes names' cs (ref.relabel f) := by
  induction h with
  | list hbrackets _ ih => exact .list hbrackets ih
  | primitive hkeyword => exact .primitive hkeyword
  | declared hbrackets hkeyword hname hindex =>
      exact .declared hbrackets hkeyword hname ((hnames _).trans hindex)

include hheads

/-- The base of a struct moves along with the names and kinds of the declarations. -/
theorem DescribesBase.relabel {fields : Fields} {base : Option TypeRef}
    (h : DescribesBase m fields base) :
    DescribesBase m' fields (base.map (TypeRef.relabel f)) := by
  cases h with
  | absent hnone => exact .absent hnone
  | struct htype hdenotes hstruct =>
      exact .struct htype (denotes_relabel hheads.name hdenotes)
        ((hheads.struct _).trans hstruct)

theorem DescribesMembers.relabel {fields : Fields} {key : String} {members : List Member}
    (h : DescribesMembers m.names fields key members) :
    DescribesMembers m'.names fields key (members.map (Member.relabel f)) := by
  obtain ⟨items, hitems, hmembers⟩ := h
  refine ⟨items, hitems, List.forall₂_map_right_iff.mpr (hmembers.imp ?_)⟩
  intro item member hmember
  obtain ⟨fields, name, type, hitem, hname, hspells, htype, hdenotes⟩ := hmember
  exact ⟨fields, name, type, hitem, hname, hspells, htype, denotes_relabel hheads.name hdenotes⟩

/-- An entry describes the same declaration at another index. -/
theorem Describes.relabel (hf : Function.Bijective f) {entry : Value} {d : Declaration}
    (h : Describes m entry d) :
    Describes m' entry ((Translation.relabeling f hf).declaration d) := by
  cases h with
  | struct hkind hname hspells hbase hattributes hlinks =>
      exact .struct hkind hname hspells (hbase.relabel hheads) (hattributes.relabel hheads)
        (hlinks.relabel hheads)
  | enumeration hkind hname hspells hitems hvalues =>
      exact .enumeration hkind hname hspells hitems hvalues

end Description

open Description

variable {m : Model} {entries entries' : List Value}

/-- Two models have the same sources, or no sources. -/
def Model.SameSource (m m' : Model) : Prop :=
  ∀ naming o, Classes.outline naming m' = .ok o ↔ Classes.outline naming m = .ok o

/-- Permuted entries describe a relabeled model. -/
theorem Model.exists_of_perm (hentries : List.Forall₂ (Describes m) entries m.declarations)
    (hdistinct : m.names.Nodup) (hperm : entries.Perm entries') :
    ∃ m', List.Forall₂ (Describes m') entries' m'.declarations ∧ m'.names.Nodup ∧
      m.SameSource m' := by
  obtain ⟨ds, hds, hdsPerm⟩ := List.perm_comp_forall₂ hperm.symm hentries
  obtain ⟨f, hf, hindex⟩ := exists_index_of_perm hdsPerm.symm
  let t := Translation.relabeling f hf
  let m' : Model := ⟨ds.map t.declaration⟩
  have hnames : m'.names = ds.map Declaration.name := by
    simp only [m', Model.names, List.map_map]
    apply List.map_congr_left
    intro d _
    cases d <;> rfl
  have htakes : t.Takes m m' := by
    intro i
    change (ds.map t.declaration)[f i]? = _
    rw [List.getElem?_map, hindex]
  have hheads : HeadsAgree f m m' := by
    constructor
    · intro i
      rw [hnames, List.getElem?_map, hindex, Model.names, List.getElem?_map]
    · intro i
      exact (congrArg Option.isSome (Translation.struct?_eq htakes i)).trans Option.isSome_map
  refine ⟨m', ?_, ?_, ?_⟩
  · apply List.forall₂_map_right_iff.mpr
    exact hds.imp fun _ _ h => h.relabel hheads hf
  · rw [hnames]
    exact (hdsPerm.map Declaration.name).nodup_iff.mpr hdistinct
  · intro naming o
    exact Translation.outline_eq_ok_iff htakes hdistinct

section Sorting

variable {m' : Model} (hsorted : m'.declarations.map Translation.sorting.declaration =
  m.declarations.map Translation.sorting.declaration)

include hsorted

/-- What sorting leaves as it is agrees when the sorted declarations do. -/
theorem Model.map_declarations_eq {α : Type} {g : Declaration → α}
    (hg : ∀ d, g (Translation.sorting.declaration d) = g d) :
    m'.declarations.map g = m.declarations.map g := by
  have hmap : ∀ ds : List Declaration,
      (ds.map Translation.sorting.declaration).map g = ds.map g := by
    intro ds
    rw [List.map_map]
    exact List.map_congr_left fun d _ => hg d
  rw [← hmap, hsorted, hmap]

theorem Model.headsAgree_of_sorting : HeadsAgree id m m' := by
  constructor
  · intro i
    have hnames := map_declarations_eq hsorted (g := Declaration.name) fun d => by cases d <;> rfl
    rw [Model.names, hnames]
    rfl
  · intro i
    have hkinds := map_declarations_eq hsorted (g := isStruct) fun d => by cases d <;> rfl
    rw [struct?_isSome, struct?_isSome, hkinds]
    rfl

/-- Declarations that are the same ones when they are sorted have the same source. -/
theorem Model.sameSource_of_sorting (hdistinct : m.names.Nodup) (hdistinct' : m'.names.Nodup) :
    m.SameSource m' := by
  -- both models are translated into the same sorted one
  let sorted : Model := ⟨m.declarations.map Translation.sorting.declaration⟩
  have htakes : Translation.sorting.Takes m sorted := by
    intro i
    exact List.getElem?_map
  have htakes' : Translation.sorting.Takes m' sorted := by
    intro i
    change (m.declarations.map Translation.sorting.declaration)[i]? = _
    rw [← hsorted]
    exact List.getElem?_map
  intro naming o
  rw [← Translation.outline_eq_ok_iff htakes hdistinct,
    Translation.outline_eq_ok_iff htakes' hdistinct']

end Sorting

/-- Rearranged entries describe the same model up to sorting. -/
theorem Model.exists_of_rearranged (hentries : List.Forall₂ (Describes m) entries m.declarations)
    (hdistinct : m.names.Nodup) (h : List.Forall₂ (FieldsDiffer EntryField) entries entries') :
    ∃ m', List.Forall₂ (Describes m') entries' m'.declarations ∧ m'.names.Nodup ∧
      m.SameSource m' := by
  -- the names and kinds are still those of `m`, whose declarations tell what references denote
  have hcomp : List.Forall₂ (Relation.Comp (Describes m) fun d' d =>
      Translation.sorting.declaration d' = Translation.sorting.declaration d)
      entries' m.declarations := by
    apply (forall₂_comp_iff.mpr ⟨entries, h.flip, hentries⟩).imp
    intro entry' d hentry
    obtain ⟨entry, hfields, hdescribes⟩ := hentry
    exact hdescribes.rearranged hfields
  obtain ⟨ds', hds', hsorted⟩ := forall₂_comp_iff.mp hcomp
  have hsame := map_eq_map_of_forall₂ hsorted fun _ _ heq => heq
  let m' : Model := ⟨ds'⟩
  have hheads : HeadsAgree id m m' := Model.headsAgree_of_sorting hsame
  have hnames : m'.names = m.names := List.ext_getElem? hheads.name
  refine ⟨m', ?_, hnames ▸ hdistinct, ?_⟩
  · apply hds'.imp
    intro entry d hentry
    have hrelabel := hentry.relabel hheads Function.bijective_id
    rwa [Translation.relabeling_id] at hrelabel
  · exact Model.sameSource_of_sorting hsame hdistinct (hnames ▸ hdistinct)

end RubyClasses
