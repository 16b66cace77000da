import RubyClasses.Proofs.Classes.Bodies
import RubyClasses.Proofs.Description.Structs

/-! # Supported members

Accessors are generated for members that hold a built-in type, a struct, an enumeration or a list
of one of these. A model whose members are all supported has a source.
-/

namespace RubyClasses

namespace Model

variable {m : Model} {ref : TypeRef}

/-- A reference to a built-in type, a struct or an enumeration. -/
inductive IsElement (m : Model) : TypeRef → Prop
  | primitive (kind : Primitive) : IsElement m (.primitive kind)
  | struct {index : Nat} {s : Struct} : m.declarations[index]? = some (.struct s) →
      IsElement m (.declared index)
  | enumeration {index : Nat} {e : Enumeration} :
      m.declarations[index]? = some (.enumeration e) → IsElement m (.declared index)

/-- A member type for which there are accessors. -/
inductive Supports (m : Model) : TypeRef → Prop
  | one {ref : TypeRef} : m.IsElement ref → Supports m ref
  | many {ref : TypeRef} : m.IsElement ref → Supports m (.list ref)

theorem isElement_iff : m.IsElement ref ↔ ∃ element, m.element? ref = some element := by
  constructor
  · intro h
    cases h with
    | primitive kind => exact ⟨_, rfl⟩
    | struct hs => exact ⟨_, by rw [element?, hs]⟩
    | enumeration he => exact ⟨_, by rw [element?, he]⟩
  · rintro ⟨element, h⟩
    unfold element? at h
    split at h
    next => exact .primitive _
    next index =>
      split at h
      next hs => exact .struct hs
      next he => exact .enumeration he
      next => cases h
    next => cases h

/-- The supported types are those that have a shape. -/
theorem supports_iff : m.Supports ref ↔ ∃ shape, m.shape? ref = some shape := by
  constructor
  · intro h
    cases h with
    | one helement =>
        obtain ⟨element, hsome⟩ := isElement_iff.mp helement
        unfold shape?
        split
        next => cases hsome
        next => exact ⟨_, by rw [hsome]; rfl⟩
    | many helement =>
        obtain ⟨element, hsome⟩ := isElement_iff.mp helement
        exact ⟨_, by rw [shape?, hsome]; rfl⟩
  · rintro ⟨shape, h⟩
    unfold shape? at h
    split at h
    all_goals
      obtain ⟨element, hsome, -⟩ := Option.map_eq_some_iff.mp h
    · exact .many (isElement_iff.mpr ⟨element, hsome⟩)
    · exact .one (isElement_iff.mpr ⟨element, hsome⟩)

theorem Supports.of_shape (h : (m.shape? ref).isSome = true) : m.Supports ref :=
  supports_iff.mpr (Option.isSome_iff_exists.mp h)

/-- A model that a source is generated for: its bases are structs of the model and end in roots, and
its members are supported. -/
structure IsSound (m : Model) : Prop where
  forest : Hierarchy.IsForest m.structs
  supports : ∀ entry ∈ m.structs, ∀ member ∈ entry.2.attributes ++ entry.2.links,
    m.Supports member.type

theorem IsSound.of_shapes (hforest : Hierarchy.IsForest m.structs)
    (hshapes : ∀ entry ∈ m.structs, ∀ member ∈ entry.2.attributes ++ entry.2.links,
      (m.shape? member.type).isSome) : m.IsSound where
  forest := hforest
  supports entry hentry member hmember :=
    .of_shape (hshapes entry hentry member hmember)

end Model

/-- A class exists for every struct whose members are supported. -/
theorem Classes.exists_body {naming : Naming} {m : Model} {s : Struct} (index : Nat)
    (hsupports : ∀ member ∈ s.attributes ++ s.links, m.Supports member.type) :
    ∃ o, body naming m index s = .ok o ∧ IsBody naming m s o := by
  obtain ⟨o, ho⟩ := exists_isBody_iff.mpr fun member hmember =>
    Model.supports_iff.mp (hsupports member hmember)
  exact ⟨o, body_eq_ok_iff.mpr ho, ho⟩

/-- A source exists for every sound model. -/
theorem Generation.exists_buffer {g : Generation} (hsound : g.model.IsSound) :
    ∃ b, g.buffer = .ok b := by
  have hshapes : ∃ text, g.render = .ok text := by
    apply exists_render_iff.mpr
    intro entry hentry member hmember
    have hmem := Model.mem_structs_of_declarationOrder hentry
    exact Model.supports_iff.mp (hsound.supports entry hmem member hmember)
  obtain ⟨text, hrender⟩ := hshapes
  obtain ⟨b, hbuffer, -⟩ := render_eq_ok_iff.mp hrender
  exact ⟨b, hbuffer⟩

end RubyClasses
