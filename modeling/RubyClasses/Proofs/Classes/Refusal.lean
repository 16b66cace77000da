import RubyClasses.Proofs.Classes.Calls
import RubyClasses.Proofs.Classes.Declarations
import RubyClasses.Proofs.Classes.Support

/-! # When generation fails

A source is refused exactly when a member of a struct is unsupported, and the first of these
members, in the order in which accessors are generated, says why. Generation has no other faults:
its templates always have the arguments that they ask for, and its modules are closed as they were
opened.
-/

namespace RubyClasses

open Hierarchy

namespace Model

/-- The members of all structs with their places, in the order in which accessors are generated. -/
def membersInOrder (m : Model) : List (Place × Member) :=
  m.declarationOrder.flatMap fun (index, s) => s.membersInOrder index

/-- The first member for which there are no accessors. -/
def IsFirstUnsupported (m : Model) (here : Place) (member : Member) : Prop :=
  ¬ m.Supports member.type ∧ ∃ before after,
    m.membersInOrder = before ++ (here, member) :: after ∧
      ∀ earlier ∈ before, m.Supports earlier.2.type

theorem knowsBase_of_isForest {m : Model} (hforest : IsForest m.structs) :
    ∀ entry ∈ m.declarationOrder, m.KnowsBase entry.2 := by
  intro entry hentry ref hbase
  obtain ⟨found, hfound, rfl⟩ :=
    hforest.closed entry (mem_structs_of_declarationOrder hentry) ref hbase
  exact ⟨found.1, found.2, rfl, mem_structs.mp hfound⟩

end Model

variable {naming : Naming} {m : Model}

namespace Accessors

variable {here : Option Place} {member : Member} {fault : MemberFault}

/-- A member is unsupported exactly if its getter is refused. -/
theorem not_supports_iff (naming : Naming) (here : Option Place) :
    ¬ m.Supports member.type ↔ ∃ fault, getter naming m here member = .error fault := by
  rw [Model.supports_iff]
  -- the comment of the getter comes first, and whether it can be written decides about the getter
  rcases sentenceCalls_spec naming m here member with ⟨shape, hshape, -⟩ | ⟨fault, hfault, -⟩
  · simp [hshape, getter_of_shape hshape]
  · have hnone : ¬ ∃ shape, m.shape? member.type = some shape := by
      rintro ⟨shape, hshape⟩
      rw [getter_of_shape hshape] at hfault
      cases hfault
    simp [hnone, hfault]

/-- The setter of a member is not at fault where its getter is not. -/
theorem both_eq_error_iff :
    both naming m here member = .error fault ↔ getter naming m here member = .error fault := by
  unfold both
  rw [bind_eq_error_iff]
  apply or_iff_left
  rintro ⟨first, hgetter, h⟩
  have hsetter := bind_pure_eq_error_iff.mp h
  cases hshape : m.shape? member.type with
  | some shape => simp [setter, hshape] at hsetter
  | none =>
      have hnot : ¬ m.Supports member.type := by simp [Model.supports_iff, hshape]
      obtain ⟨fault, hfault⟩ := (not_supports_iff naming here).mp hnot
      rw [hfault] at hgetter
      cases hgetter

/-- The accessors of a member are written exactly if its type is supported. -/
theorem exists_both_eq_ok_iff (naming : Naming) (here : Option Place) :
    (∃ o, both naming m here member = .ok o) ↔ m.Supports member.type := by
  simp only [both_eq_ok_iff, exists_isPair_iff, Model.supports_iff]

end Accessors

namespace Classes

theorem body_eq_error_iff {index : Nat} {s : Struct} {fault : MemberFault} :
    body naming m index s = .error fault ↔
      (s.membersInOrder index).mapM (fun (here, member) =>
        Accessors.both naming m (some here) member) = .error fault := bind_pure_eq_error_iff

/-- A source fails as the getter of the first unsupported member does. -/
theorem outline_eq_error_iff {fault : MemberFault} :
    outline naming m = .error fault ↔ ∃ here member, m.IsFirstUnsupported here member ∧
      Accessors.getter naming m (some here) member = .error fault := by
  have hbodies : outline naming m = .error fault ↔
      m.membersInOrder.mapM (fun (here, member) =>
        Accessors.both naming m (some here) member) = .error fault := by
    rw [Model.membersInOrder, mapM_flatMap_eq_error_iff]
    have houtline : outline naming m = .error fault ↔
        m.declarationOrder.mapM (fun (index, s) => body naming m index s) = .error fault :=
      bind_pure_eq_error_iff
    exact houtline.trans (mapM_eq_error_congr fun _ _ => body_eq_error_iff)
  rw [hbodies, mapM_eq_error_iff]
  simp only [Accessors.exists_both_eq_ok_iff, Accessors.both_eq_error_iff]
  constructor
  · rintro ⟨before, ⟨here, member⟩, after, hparts, hbefore, hgetter⟩
    have hnot := (Accessors.not_supports_iff naming (some here)).mpr ⟨fault, hgetter⟩
    exact ⟨here, member, ⟨hnot, before, after, hparts, hbefore⟩, hgetter⟩
  · rintro ⟨here, member, ⟨-, before, after, hparts, hbefore⟩, hgetter⟩
    exact ⟨before, (here, member), after, hparts, hbefore, hgetter⟩

end Classes

namespace Generation

/-- How generation ends. -/
structure Outcome (g : Generation) : Prop where
  /-- The structs are brought into declaration order. -/
  ordered : ∃ count, Queue.Turns count (Queue.ofStructs g.model.structs)
    ⟨[], g.model.declarationOrder⟩
  fails_iff : (∃ fault, g.render = .error fault) ↔ ∃ entry ∈ g.model.structs,
    ∃ member ∈ entry.2.attributes ++ entry.2.links, ¬ g.model.Supports member.type
  /-- The first unsupported member determines the fault. -/
  fault_iff : ∀ fault, g.render = .error fault ↔ ∃ here member,
    g.model.IsFirstUnsupported here member ∧
      Accessors.getter g.naming g.model (some here) member = .error fault
  /-- The calls of the generator end as told, without any other fault. -/
  run_ok : ∀ text, g.render = .ok text → ∀ disk journal,
    let r := g.calls.run ⟨Buffer.create g.fileName, disk, journal⟩
    r.fault = none ∧ r.session.buffer.render = text
  run_error : ∀ fault, g.render = .error fault → ∀ disk journal,
    (g.calls.run ⟨Buffer.create g.fileName, disk, journal⟩).fault = some (.raised fault.message)

theorem render_eq_error_iff {g : Generation} {fault : MemberFault} :
    g.render = .error fault ↔ g.buffer = .error fault := map_eq_error_iff

theorem buffer_eq_error_iff {g : Generation} {fault : MemberFault} :
    g.buffer = .error fault ↔ Classes.outline g.naming g.model = .error fault :=
  bind_pure_eq_error_iff

/-- A source is refused exactly if some struct declares an unsupported member. -/
theorem exists_error_iff {g : Generation} (hforest : IsForest g.model.structs) :
    (∃ fault, g.render = .error fault) ↔ ∃ entry ∈ g.model.structs,
      ∃ member ∈ entry.2.attributes ++ entry.2.links, ¬ g.model.Supports member.type := by
  have hperm := (Model.declarationOrder_of_isForest hforest).1
  have hok : (∃ fault, g.render = .error fault) ↔ ¬ ∃ text, g.render = .ok text := by
    cases g.render <;> simp
  rw [hok, exists_render_iff]
  simp only [← Model.supports_iff, hperm.mem_iff, not_forall, exists_prop]

/-- Where bases form a forest, generation ends in one of the two ways. -/
theorem outcome_of_isForest {g : Generation} (hforest : IsForest g.model.structs) : g.Outcome where
  ordered := by
    obtain ⟨rank, -, hturns, -, -⟩ := Model.exists_turns hforest
    exact ⟨_, hturns⟩
  fails_iff := exists_error_iff hforest
  fault_iff fault := by
    rw [render_eq_error_iff, buffer_eq_error_iff, Classes.outline_eq_error_iff]
  run_ok := by
    intro text hrender disk journal
    obtain ⟨b, hbuffer, rfl⟩ := render_eq_ok_iff.mp hrender
    obtain ⟨o, houtline, rfl⟩ := buffer_eq_ok_iff.mp hbuffer
    have hbases := Model.knowsBase_of_isForest hforest
    obtain ⟨hsession, hfault, -⟩ := (isScoped_calls hbases).run_has
      ⟨Buffer.create g.fileName, disk, journal⟩
    rw [effect_calls hbases houtline] at hsession hfault
    refine ⟨hfault, ?_⟩
    rw [hsession]
    rfl
  run_error := by
    intro fault hrender disk journal
    have houtline := buffer_eq_error_iff.mp (render_eq_error_iff.mp hrender)
    have hbases := Model.knowsBase_of_isForest hforest
    have hrun := (isScoped_calls hbases).run_has ⟨Buffer.create g.fileName, disk, journal⟩
    rw [hrun.fault_eq]
    exact fault_calls hbases houtline

end Generation

/-- A model that was read without a cycle of bases has all bases among its structs. -/
theorem Model.isForest_of_ofText {content : String} {m : Model} (hload : ofText content = .ok m)
    (hacyclic : ∀ index, ¬ Relation.TransGen (Extends m.structs) index index) :
    IsForest m.structs := by
  obtain ⟨document, -, hmodel⟩ := ofText_eq_ok_iff.mp hload
  exact hmodel.isForest hacyclic

/-- Under every configuration, generation ends with a source or with the fault of the first
unsupported member, when no bases are missing or run in a cycle. What was read misses none. -/
theorem Generation.refuses_only_unsupported :
    (∀ content m, Model.ofText content = .ok m →
      (∀ index, ¬ Relation.TransGen (Extends m.structs) index index) → IsForest m.structs) ∧
    ∀ g : Generation, IsForest g.model.structs → g.Outcome :=
  ⟨fun _ _ => Model.isForest_of_ofText, fun _ => outcome_of_isForest⟩

/-- A grid with rows of rows and an owner of no known type, and a sheet that extends it. -/
def gridModel : Model where
  declarations := [
    .struct ⟨⟨["sheet"]⟩, some (.declared 1), [], []⟩,
    .struct ⟨⟨["grid"]⟩, none,
      [⟨⟨["rows"]⟩, .list (.list (.primitive .string))⟩, ⟨⟨["name"]⟩, .primitive .string⟩],
      [⟨⟨["owner"]⟩, .unknown "%"⟩]⟩]

theorem gridModel_isForest : IsForest gridModel.structs :=
  ⟨by decide, by decide, acyclic_of_heights (fun i => 1 - i) (by decide)⟩

/-- A grid under a configuration with percent signs, quotes and empty parts. -/
def gridGeneration : Generation where
  model := gridModel
  naming := ⟨"100%::::'%s'", "%d", "\""⟩
  requires := ["%", "'"]

theorem Generation.refuses_only_unsupported_grid :
    IsForest teamModel.structs ∧ IsForest gridModel.structs ∧ gridGeneration.Outcome ∧
      ∃ fault, gridGeneration.render = .error fault := by
  obtain ⟨hload, hends⟩ := refuses_only_unsupported
  have hteam := hload teamText teamModel ofText_teamText teamModel_acyclic
  have hgrid := hends gridGeneration gridModel_isForest
  refine ⟨hteam, gridModel_isForest, hgrid, hgrid.fails_iff.mpr ?_⟩
  have hshapes : ∃ entry ∈ gridModel.structs, ∃ member ∈ entry.2.attributes ++ entry.2.links,
      gridModel.shape? member.type = none := by decide
  obtain ⟨entry, hentry, member, hmember, hshape⟩ := hshapes
  refine ⟨entry, hentry, member, hmember, ?_⟩
  simp [Model.supports_iff, gridGeneration, hshape]

end RubyClasses
