import Mathlib.Data.List.Nodup
import RubyClasses.Proofs.Classes.Bodies
import RubyClasses.Proofs.Description.Structs

/-! # Translations of models

A translation gives the declarations of a model other indexes and may reorder what is sorted before
it is written. Generation does not see a translation: the queue works on the translated structs as
on the original ones, and the sources are the same.
-/

namespace RubyClasses

/-- A type reference with other indexes. -/
def TypeRef.relabel (f : Nat → Nat) : TypeRef → TypeRef
  | primitive kind => primitive kind
  | declared index => declared (f index)
  | list element => list (element.relabel f)
  | unknown text => unknown text

/-- A member whose type has other indexes. -/
def Member.relabel (f : Nat → Nat) (member : Member) : Member :=
  ⟨member.name, member.type.relabel f⟩

/-- Changes of declarations that generation does not see. -/
structure Translation where
  index : Nat → Nat
  struct : Struct → Struct
  enumeration : Enumeration → Enumeration
  bijective : Function.Bijective index
  struct_name : ∀ s, (struct s).name = s.name
  struct_base : ∀ s, (struct s).base = s.base.map (TypeRef.relabel index)
  struct_members : ∀ s, (struct s).sortedMembers = s.sortedMembers.map (Member.relabel index)
  struct_properties : ∀ s, (struct s).properties = s.properties
  enumeration_name : ∀ e, (enumeration e).name = e.name
  enumeration_outline : ∀ e, Classes.enumeration (enumeration e) = Classes.enumeration e

namespace Queue

/-- A queue of other structs. -/
def map (g : Nat × Struct → Nat × Struct) (q : Queue) : Queue :=
  ⟨q.waiting.map g, q.placed.map g⟩

variable {g : Nat × Struct → Nat × Struct}
  (hready : ∀ (q : Queue) entry, (q.map g).isReady (g entry).2 = q.isReady entry.2)

include hready

/-- A turn of the loop does the same with other structs that are ready as often. -/
theorem turn_map (q : Queue) : (q.map g).turn = q.turn.map g := by
  cases hwaiting : q.waiting with
  | nil => simp [turn, map, hwaiting]
  | cons next rest =>
      have hnext : (q.map g).waiting = g next :: rest.map g := by simp [map, hwaiting]
      simp only [turn, hnext, hwaiting, hready]
      split <;> simp [map]

/-- The loop takes the same turns when every struct is ready as often as before. -/
theorem settle_map (limit : Nat) (q : Queue) :
    settle limit (q.map g) = ((settle limit q).1, (settle limit q).2.map g) := by
  induction limit generalizing q with
  | zero => rfl
  | succ limit ih =>
      cases hwaiting : q.waiting with
      | nil => simp [settle, map, hwaiting]
      | cons next rest =>
          have hnext : (q.map g).waiting = g next :: rest.map g := by simp [map, hwaiting]
          simp only [settle, hnext, hwaiting, turn_map hready, ih]

end Queue

namespace Translation

variable (t : Translation)

/-- A struct with its index, translated. -/
def entry (e : Nat × Struct) : Nat × Struct := (t.index e.1, t.struct e.2)

/-- A declaration, translated. -/
def declaration : Declaration → Declaration
  | .struct s => .struct (t.struct s)
  | .enumeration e => .enumeration (t.enumeration e)

/-- A model is translated into another one. -/
def Takes (m m' : Model) : Prop :=
  ∀ i, m'.declarations[t.index i]? = m.declarations[i]?.map t.declaration

theorem isReady_map (q : Queue) (e : Nat × Struct) :
    (q.map t.entry).isReady (t.entry e).2 = q.isReady e.2 := by
  have hbase : (t.entry e).2.base = e.2.base.map (TypeRef.relabel t.index) := t.struct_base e.2
  rw [Bool.eq_iff_iff, Queue.isReady_iff, Queue.isReady_iff, hbase]
  cases e.2.base with
  | none => simp
  | some ref =>
      cases ref with
      | declared i =>
          simp [Queue.map, entry, TypeRef.relabel, t.bijective.injective.eq_iff]
      | _ => simp [TypeRef.relabel]

variable {t} {m m' : Model} (htakes : t.Takes m m')

include htakes

/-- The struct at a translated index is the translated struct. -/
theorem struct?_eq (i : Nat) : m'.struct? (t.index i) = (m.struct? i).map t.struct := by
  unfold Model.struct?
  rw [htakes i]
  cases m.declarations[i]? with
  | none => rfl
  | some d => cases d <;> rfl

/-- A translated reference leads to the same element. -/
theorem element?_relabel (ref : TypeRef) : m'.element? (ref.relabel t.index) = m.element? ref := by
  cases ref with
  | declared i =>
      simp only [TypeRef.relabel, Model.element?]
      rw [htakes i]
      cases m.declarations[i]? with
      | none => rfl
      | some d =>
          cases d with
          | struct s => simp [declaration, t.struct_name]
          | enumeration e => simp [declaration, t.enumeration_name]
  | _ => rfl

theorem shape?_relabel (ref : TypeRef) : m'.shape? (ref.relabel t.index) = m.shape? ref := by
  cases ref with
  | list element => simp only [TypeRef.relabel, Model.shape?, element?_relabel htakes]
  | declared i =>
      have helement := element?_relabel htakes (.declared i)
      simp only [TypeRef.relabel] at helement
      simp only [TypeRef.relabel, Model.shape?, helement]
  | _ => rfl

/-- The class line names classes, which are the same in both models. -/
theorem header_eq (naming : Naming) (s : Struct) :
    Classes.header naming m' (t.struct s) = Classes.header naming m s := by
  have hbase : m'.baseOf (t.struct s) = (m.baseOf s).map t.struct := by
    simp only [Model.baseOf, t.struct_base]
    cases s.base with
    | none => rfl
    | some ref =>
        cases ref with
        | declared i => exact struct?_eq htakes i
        | _ => rfl
  simp only [Classes.header, hbase, t.struct_name]
  cases m.baseOf s with
  | none => rfl
  | some base => simp [t.struct_name]

/-- A translated member has the same accessors. -/
theorem isPair_relabel {naming : Naming} {member : Member} {o : Outline} :
    Accessors.IsPair naming m' (member.relabel t.index) o ↔
      Accessors.IsPair naming m member o := by
  simp only [Accessors.IsPair, Member.relabel, shape?_relabel htakes]

theorem isBody_iff {naming : Naming} {s : Struct} {o : Outline} :
    Classes.IsBody naming m' (t.struct s) o ↔ Classes.IsBody naming m s o := by
  have hconstructor : Classes.constructor (t.struct s) = Classes.constructor s := by
    simp only [Classes.constructor, t.struct_properties]
  simp only [Classes.IsBody, t.struct_members, List.forall₂_map_left_iff, isPair_relabel htakes,
    header_eq htakes, hconstructor]

/-- The declarations of one kind are translated, and may come in another order. -/
theorem picked_perm {α : Type} {pick : Declaration → Option α} (g : α → α)
    (hpick : ∀ d, pick (t.declaration d) = (pick d).map g) :
    (m'.picked pick).Perm ((m.picked pick).map fun e => (t.index e.1, g e.2)) := by
  have hdistinct : ((m.picked pick).map fun e => (t.index e.1, g e.2)).Nodup := by
    have hindexes : ((m.picked pick).map fun e => (t.index e.1, g e.2)).map Prod.fst =
        ((m.picked pick).map Prod.fst).map t.index := by
      rw [List.map_map, List.map_map]
      rfl
    apply List.Nodup.of_map Prod.fst
    rw [hindexes]
    exact Model.picked_distinct.map t.bijective.injective
  apply (List.perm_ext_iff_of_nodup (.of_map Prod.fst Model.picked_distinct) hdistinct).mpr
  intro e
  obtain ⟨j, b⟩ := e
  -- every index of the second model is the image of one of the first
  obtain ⟨i, rfl⟩ := t.bijective.surjective j
  rw [Model.mem_picked, htakes i, List.mem_map]
  constructor
  · intro h
    obtain ⟨d', hd', hb⟩ := h
    obtain ⟨d, hd, rfl⟩ := Option.map_eq_some_iff.mp hd'
    rw [hpick] at hb
    obtain ⟨a, ha, rfl⟩ := Option.map_eq_some_iff.mp hb
    exact ⟨(i, a), Model.mem_picked.mpr ⟨d, hd, ha⟩, rfl⟩
  · intro h
    obtain ⟨⟨k, a⟩, hmem, heq⟩ := h
    obtain ⟨hindex, rfl⟩ := Prod.mk.inj heq
    have hk := t.bijective.injective hindex
    subst hk
    obtain ⟨d, hd, ha⟩ := Model.mem_picked.mp hmem
    exact ⟨t.declaration d, by rw [hd, Option.map_some], by rw [hpick, ha, Option.map_some]⟩

/-- A translated model has the same structs in its declaration order. -/
theorem declarationOrder_eq (hdistinct : m.names.Nodup) :
    m'.declarationOrder = m.declarationOrder.map t.entry := by
  have hperm : m'.structs.Perm (m.structs.map t.entry) := by
    rw [Model.structs_eq_picked, Model.structs_eq_picked]
    exact picked_perm htakes t.struct fun d => by cases d <;> rfl
  have hnames : ((m.structs.map t.entry).map fun e => e.2.name).Nodup := by
    have horiginal : ((m.picked Declaration.struct?).map fun e => e.2.name).Nodup := by
      apply Model.picked_names_nodup hdistinct
      intro d s h
      rw [Declaration.struct?_eq_some_iff.mp h]
      rfl
    rw [← Model.structs_eq_picked] at horiginal
    simpa only [List.map_map, Function.comp_def, entry, t.struct_name] using horiginal
  have hlines : Queue.ofStructs m'.structs = (Queue.ofStructs m.structs).map t.entry := by
    have hsorted := Name.sortBy_eq_of_perm hperm.symm hnames
    rw [Name.sortBy_map] at hsorted
    simp only [entry, t.struct_name] at hsorted
    simp only [Queue.ofStructs, Queue.map, List.map_nil]
    rw [← hsorted]
  have hlength : m'.structs.length = m.structs.length := by
    rw [hperm.length_eq, List.length_map]
  rw [Model.declarationOrder, Model.declarationOrder, hlines, hlength,
    Queue.settle_map t.isReady_map]
  rfl

/-- Enumerations come in the order of their names, so in the same one. -/
theorem enumerationsInOrder_eq (hdistinct : m.names.Nodup) :
    Classes.enumerationsInOrder m' = (Classes.enumerationsInOrder m).map t.enumeration := by
  have hperm : (m'.enumerations.map Prod.snd).Perm
      ((m.enumerations.map Prod.snd).map t.enumeration) := by
    rw [Model.enumerations_eq_picked, Model.enumerations_eq_picked, List.map_map]
    have hpicked : (m'.picked Declaration.enumeration?).Perm
        ((m.picked Declaration.enumeration?).map fun e => (t.index e.1, t.enumeration e.2)) :=
      picked_perm htakes t.enumeration fun d => by cases d <;> rfl
    have hsecond := hpicked.map Prod.snd
    rwa [List.map_map] at hsecond
  have hnames : (((m.enumerations.map Prod.snd).map t.enumeration).map Enumeration.name).Nodup := by
    have horiginal : ((m.picked Declaration.enumeration?).map fun e => e.2.name).Nodup := by
      apply Model.picked_names_nodup hdistinct
      intro d e h
      rw [Declaration.enumeration?_eq_some_iff.mp h]
      rfl
    rw [← Model.enumerations_eq_picked] at horiginal
    simpa only [List.map_map, Function.comp_def, t.enumeration_name] using horiginal
  have hsorted := Name.sortBy_eq_of_perm hperm.symm hnames
  rw [Name.sortBy_map] at hsorted
  simp only [t.enumeration_name] at hsorted
  exact hsorted.symm

/-- Generation does not see the translation of a model. -/
theorem outline_eq_ok_iff (hdistinct : m.names.Nodup) {naming : Naming} {o : Outline} :
    Classes.outline naming m' = .ok o ↔ Classes.outline naming m = .ok o := by
  have hstructs : m'.declarationOrder.map Prod.snd =
      (m.declarationOrder.map Prod.snd).map t.struct := by
    rw [declarationOrder_eq htakes hdistinct, List.map_map, List.map_map]
    rfl
  have hforwards : (m'.declarationOrder.map Prod.snd).map (Classes.forward naming m') =
      (m.declarationOrder.map Prod.snd).map (Classes.forward naming m) := by
    rw [hstructs, List.map_map]
    apply List.map_congr_left
    intro s _
    simp only [Function.comp_apply, Classes.forward, header_eq htakes]
  have henumerations : (Classes.enumerationsInOrder m').map Classes.enumeration =
      (Classes.enumerationsInOrder m).map Classes.enumeration := by
    rw [enumerationsInOrder_eq htakes hdistinct, List.map_map]
    apply List.map_congr_left
    intro e _
    exact t.enumeration_outline e
  rw [Classes.outline_eq_ok_iff, Classes.outline_eq_ok_iff, hforwards, henumerations, hstructs]
  simp only [List.forall₂_map_left_iff, isBody_iff htakes]

end Translation

@[simp]
theorem TypeRef.relabel_id (ref : TypeRef) : ref.relabel id = ref := by
  induction ref with
  | list element ih => rw [relabel, ih]
  | _ => rfl

@[simp]
theorem Member.relabel_id : Member.relabel id = id := by
  funext member
  simp [relabel]

/-- Properties are in ascending order. -/
theorem Struct.properties_ascending (s : Struct) : s.properties.Pairwise fun a b => a ≤ b := by
  have hsorted : s.properties.Pairwise fun a b => decide (a ≤ b) := by
    apply List.pairwise_mergeSort
    · intro a b c hab hbc
      simp only [decide_eq_true_eq] at *
      exact String.le_trans hab hbc
    · intro a b
      simp only [Bool.or_eq_true, decide_eq_true_eq]
      exact String.le_total a b
  exact hsorted.imp (fun h => by simpa using h)

/-- The order of the members does not matter to the properties. -/
theorem Struct.properties_eq_of_perm {s s' : Struct}
    (hperm : (s.attributes ++ s.links).Perm (s'.attributes ++ s'.links)) :
    s.properties = s'.properties := by
  have hsame : s.properties.Perm s'.properties := by
    unfold properties
    apply (List.mergeSort_perm _ _).trans
    exact (hperm.map _).trans (List.mergeSort_perm _ _).symm
  apply hsame.eq_of_pairwise _ s.properties_ascending s'.properties_ascending
  intro _ _ _ _
  exact String.le_antisymm

/-- Give the declarations other indexes. -/
def Translation.relabeling (f : Nat → Nat) (hf : Function.Bijective f) : Translation where
  index := f
  struct s := ⟨s.name, s.base.map (TypeRef.relabel f), s.attributes.map (Member.relabel f),
    s.links.map (Member.relabel f)⟩
  enumeration := id
  bijective := hf
  struct_name _ := rfl
  struct_base _ := rfl
  struct_members s := by
    simp only [Struct.sortedMembers, Name.sortBy_map, List.map_append]
    rfl
  struct_properties s := by
    simp only [Struct.properties, ← List.map_append, List.map_map]
    rfl
  enumeration_name _ := rfl
  enumeration_outline _ := rfl

theorem Translation.relabeling_id (d : Declaration) :
    (relabeling id Function.bijective_id).declaration d = d := by
  cases d with
  | struct s =>
      obtain ⟨name, base, attributes, links⟩ := s
      cases base <;> simp [declaration, relabeling]
  | enumeration e => rfl

/-- Sort the members of structs and the values of enumerations. -/
def Translation.sorting : Translation where
  index := id
  struct s := ⟨s.name, s.base, Name.sortBy Member.name s.attributes,
    Name.sortBy Member.name s.links⟩
  enumeration e := ⟨e.name, Name.sortBy id e.values⟩
  bijective := Function.bijective_id
  struct_name _ := rfl
  struct_base s := by
    cases h : s.base <;> simp
  struct_members s := by
    simp only [Struct.sortedMembers, Name.sortBy_sortBy, Member.relabel_id, List.map_id]
  struct_properties s :=
    Struct.properties_eq_of_perm ((Name.sortBy_perm _ _).append (Name.sortBy_perm _ _))
  enumeration_name _ := rfl
  enumeration_outline e := by
    simp only [Classes.enumeration, Name.sortBy_id_eq_of_perm (Name.sortBy_perm id e.values)]

end RubyClasses
