import RubyClasses.Proofs.Description.Closure
import RubyClasses.Proofs.Hierarchy.RankOrder
import RubyClasses.Proofs.Name.Letters

/-! # Structs of models that were read

The structs of a model that was read are a forest unless they extend each other in a cycle, and then
the declaration order lists each of them once, behind all that it extends. The names in the model
are proper ones.
-/

namespace RubyClasses

open Relation
open Json (Value)
open Description

namespace Declaration

/-- The struct of a declaration. -/
def struct? : Declaration → Option Struct
  | struct s => some s
  | enumeration _ => none

/-- The enumeration of a declaration. -/
def enumeration? : Declaration → Option Enumeration
  | struct _ => none
  | enumeration e => some e

theorem struct?_eq_some_iff {d : Declaration} {s : Struct} :
    d.struct? = some s ↔ d = .struct s := by
  cases d <;> simp [struct?]

theorem enumeration?_eq_some_iff {d : Declaration} {e : Enumeration} :
    d.enumeration? = some e ↔ d = .enumeration e := by
  cases d <;> simp [enumeration?]

end Declaration

namespace Model

variable {m : Model}

theorem struct?_eq_some_iff {index : Nat} {s : Struct} :
    m.struct? index = some s ↔ m.declarations[index]? = some (.struct s) := by
  unfold struct?
  split
  next h => simp [h]
  next hnot =>
    simp only [reduceCtorEq, false_iff]
    exact hnot s

/-- The declarations of one kind with their indexes. -/
def picked {α : Type} (m : Model) (pick : Declaration → Option α) : List (Nat × α) :=
  m.declarations.zipIdx.filterMap fun entry => (pick entry.1).map (Prod.mk entry.2)

section Picked

variable {α : Type} {pick : Declaration → Option α}

theorem mem_picked {index : Nat} {a : α} :
    (index, a) ∈ m.picked pick ↔ ∃ d, m.declarations[index]? = some d ∧ pick d = some a := by
  simp only [picked, List.mem_filterMap, Option.map_eq_some_iff]
  constructor
  · intro h
    obtain ⟨⟨d, i⟩, hmem, found, hfound, heq⟩ := h
    cases heq
    exact ⟨d, List.mem_zipIdx_iff_getElem?.mp hmem, hfound⟩
  · intro h
    obtain ⟨d, hd, hpick⟩ := h
    exact ⟨(d, index), List.mem_zipIdx_iff_getElem?.mpr hd, a, hpick, rfl⟩

/-- An index is picked once. -/
theorem picked_distinct : ((m.picked pick).map Prod.fst).Nodup := by
  have hindexes : (m.declarations.zipIdx.map Prod.snd).Nodup := by
    rw [List.zipIdx_map_snd]
    exact List.nodup_range'
  rw [List.Nodup, List.pairwise_map] at hindexes ⊢
  rw [picked, List.pairwise_filterMap]
  apply hindexes.imp
  intro first second hne a ha b hb
  obtain ⟨_, -, rfl⟩ := Option.map_eq_some_iff.mp ha
  obtain ⟨_, -, rfl⟩ := Option.map_eq_some_iff.mp hb
  exact hne

/-- Distinct names stay distinct among the declarations of one kind. -/
theorem picked_names_nodup (hdistinct : m.names.Nodup) (name : α → Name)
    (hname : ∀ d a, pick d = some a → name a = d.name) :
    ((m.picked pick).map fun entry => name entry.2).Nodup := by
  apply List.Nodup.map_on _ (List.Nodup.of_map Prod.fst picked_distinct)
  intro first hfirst second hsecond heq
  obtain ⟨i, a⟩ := first
  obtain ⟨j, b⟩ := second
  obtain ⟨d, hd, ha⟩ := mem_picked.mp hfirst
  obtain ⟨e, he, hb⟩ := mem_picked.mp hsecond
  have hsame : m.names[i]? = m.names[j]? := by
    rw [names, List.getElem?_map, List.getElem?_map, hd, he, Option.map_some, Option.map_some,
      ← hname d a ha, ← hname e b hb, heq]
  have hlt : i < m.names.length := by
    rw [names, List.length_map]
    exact (List.getElem?_eq_some_iff.mp hd).1
  have hij := (List.getElem?_inj hlt hdistinct).mp hsame
  subst hij
  rw [hd] at he
  cases he
  rw [ha] at hb
  cases hb
  rfl

end Picked

theorem structs_eq_picked (m : Model) : m.structs = m.picked Declaration.struct? := by
  unfold structs picked
  congr 1
  funext entry
  obtain ⟨d, i⟩ := entry
  cases d <;> rfl

theorem enumerations_eq_picked (m : Model) :
    m.enumerations = m.picked Declaration.enumeration? := by
  unfold enumerations picked
  congr 1
  funext entry
  obtain ⟨d, i⟩ := entry
  cases d <;> rfl

/-- The structs of a model are those that its indexes lead to. -/
theorem mem_structs {index : Nat} {s : Struct} :
    (index, s) ∈ m.structs ↔ m.struct? index = some s := by
  rw [structs_eq_picked, mem_picked, struct?_eq_some_iff]
  simp only [Declaration.struct?_eq_some_iff, exists_eq_right]

theorem mem_enumerations {index : Nat} {e : Enumeration} :
    (index, e) ∈ m.enumerations ↔ m.declarations[index]? = some (.enumeration e) := by
  rw [enumerations_eq_picked, mem_picked]
  simp only [Declaration.enumeration?_eq_some_iff, exists_eq_right]

/-- The declaration order lists structs of the model, also when some of them are never placed. -/
theorem mem_structs_of_declarationOrder {entry : Nat × Struct} (h : entry ∈ m.declarationOrder) :
    entry ∈ m.structs := by
  have hperm := Queue.settle_perm (Queue.enoughTurns m.structs.length) (Queue.ofStructs m.structs)
  have hmem := hperm.subset (List.mem_append_right _ h)
  rw [Queue.ofStructs, List.append_nil] at hmem
  exact Name.mem_sortBy.mp hmem

/-- The queue of the structs of a forest runs empty and leaves them ordered by rank. -/
theorem exists_turns (hforest : Hierarchy.IsForest m.structs) :
    ∃ rank, Hierarchy.IsRank (Queue.lineOf m.structs) rank ∧
      Queue.Turns (m.structs.map fun entry => rank entry.1).sum (Queue.ofStructs m.structs)
        ⟨[], m.declarationOrder⟩ ∧
      m.declarationOrder.Perm m.structs ∧
      m.declarationOrder.Pairwise fun a b =>
        Hierarchy.RanksBefore (Queue.lineOf m.structs) rank a.1 b.1 := by
  obtain ⟨rank, hrank⟩ := (hforest.of_perm Queue.lineOf_perm.symm).exists_rank
  obtain ⟨order, hturns, hperm, horder⟩ := Queue.exists_turns hforest hrank
  have hsettle := hturns.settle_eq rfl (Queue.sum_rank_le hforest hrank)
  have heq : m.declarationOrder = order := by rw [declarationOrder, hsettle]
  rw [heq]
  exact ⟨rank, hrank, hturns, hperm, horder⟩

/-- The declaration order of a forest lists each struct once, behind all that it extends. -/
theorem declarationOrder_of_isForest (hforest : Hierarchy.IsForest m.structs) :
    m.declarationOrder.Perm m.structs ∧
      ∀ i j, TransGen (Hierarchy.Extends m.structs) i j →
        Hierarchy.place m.declarationOrder j < Hierarchy.place m.declarationOrder i := by
  obtain ⟨rank, hrank, -, hperm, horder⟩ := exists_turns hforest
  exact ⟨hperm, fun i j => Queue.place_lt_of_extends hforest hrank hperm horder⟩

/-- All names in a model are proper ones. -/
structure HasProperNames (m : Model) : Prop where
  declaration : ∀ d ∈ m.declarations, d.name.IsProper
  member : ∀ s, .struct s ∈ m.declarations → ∀ member ∈ s.attributes ++ s.links,
    member.name.IsProper
  value : ∀ e, .enumeration e ∈ m.declarations → ∀ value ∈ e.values, value.IsProper

theorem HasProperNames.enumeration (h : m.HasProperNames) {e : Enumeration}
    (hmem : e ∈ m.enumerations.map Prod.snd) :
    e.name.IsProper ∧ ∀ value ∈ e.values, value.IsProper := by
  obtain ⟨⟨index, found⟩, hfound, rfl⟩ := List.mem_map.mp hmem
  have hdeclared := List.mem_of_getElem? (mem_enumerations.mp hfound)
  exact ⟨h.declaration _ hdeclared, h.value found hdeclared⟩

end Model

namespace Description

variable {m : Model} {document : Value}

theorem Spells.isProper {v : Value} {name : Name} (h : Spells v name) : name.IsProper := by
  obtain ⟨t, -, hname⟩ := h
  exact Name.isProper_of_ofText? hname

theorem DescribesMembers.isProper {names : List Name} {fields : Fields} {key : String}
    {members : List Member} (h : DescribesMembers names fields key members) {member : Member}
    (hmem : member ∈ members) : member.name.IsProper := by
  obtain ⟨items, -, hmembers⟩ := h
  obtain ⟨_, -, _, _, _, -, -, hspells, -⟩ := exists_left_of_forall₂ hmembers hmem
  exact hspells.isProper

/-- Every name in a described model was spelled by a value, so it is proper. -/
theorem DescribesModel.hasProperNames (h : DescribesModel document m) : m.HasProperNames := by
  obtain ⟨_, _, -, -, hentries, -⟩ := id h
  refine ⟨?_, ?_, ?_⟩
  · intro d hmem
    obtain ⟨entry, -, hentry⟩ := exists_left_of_forall₂ hentries hmem
    cases hentry with
    | struct _ _ hspells => exact hspells.isProper
    | enumeration _ _ hspells => exact hspells.isProper
  · intro s hmem member hmember
    obtain ⟨fields, -, hattributes, hlinks⟩ := h.struct hmem
    rcases List.mem_append.mp hmember with hmember | hmember
    · exact hattributes.isProper hmember
    · exact hlinks.isProper hmember
  · intro e hmem value hvalue
    obtain ⟨entry, -, hentry⟩ := exists_left_of_forall₂ hentries hmem
    cases hentry with
    | enumeration _ _ _ _ hvalues =>
        obtain ⟨_, -, hspells⟩ := exists_left_of_forall₂ hvalues hvalue
        exact hspells.isProper

/-- Without cycles, the structs of a described model are a forest. -/
theorem DescribesModel.isForest (h : DescribesModel document m)
    (hacyclic : ∀ i, ¬ TransGen (Hierarchy.Extends m.structs) i i) :
    Hierarchy.IsForest m.structs where
  distinct := m.structs_eq_picked ▸ Model.picked_distinct
  closed := by
    rintro ⟨index, s⟩ hmem base hbase
    have hstruct := Model.mem_of_struct? (Model.mem_structs.mp hmem)
    obtain ⟨other, found, rfl, hfound⟩ := h.base_isStruct hstruct hbase
    exact ⟨(other, found), Model.mem_structs.mpr hfound, rfl⟩
  acyclic := hacyclic

end Description

end RubyClasses
