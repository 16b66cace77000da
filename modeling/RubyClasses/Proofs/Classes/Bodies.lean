import RubyClasses.Generation
import RubyClasses.Proofs.Fallible
import RubyClasses.Proofs.Name.Order
import RubyClasses.Proofs.Outline.Lines
import RubyClasses.Proofs.Pointwise
import RubyClasses.Proofs.Source.Requires

/-! # When classes are generated

A source is generated when every member of every struct has a shape. It consists of the forward
declarations, the bodies with a pair of accessors for each member, and the enumerations. Neither
the indexes of the structs nor the places of their members leave a trace in it.
-/

namespace RubyClasses

/-- The members of a struct in the order of their accessors. -/
def Struct.sortedMembers (s : Struct) : List Member :=
  Name.sortBy Member.name s.attributes ++ Name.sortBy Member.name s.links

/-- The place of a member has no part in the order. -/
theorem Struct.map_membersInOrder (owner : Nat) (s : Struct) :
    (s.membersInOrder owner).map Prod.snd = s.sortedMembers := by
  -- whatever place is put beside a member, sorting looks at its name
  have hplaced : ∀ (placed : Member × Nat → Place × Member) (members : List Member),
      (∀ entry, (placed entry).2 = entry.1) →
      (Name.sortBy (fun entry => entry.2.name) (members.zipIdx.map placed)).map Prod.snd =
        Name.sortBy Member.name members := by
    intro placed members hmember
    rw [← Name.sortBy_map Prod.snd Member.name, List.map_map]
    congr 1
    have hfirst : Prod.snd ∘ placed = Prod.fst := funext hmember
    rw [hfirst]
    exact List.zipIdx_map_fst 0 members
  rw [membersInOrder, List.map_append, hplaced _ _ fun _ => rfl, hplaced _ _ fun _ => rfl,
    sortedMembers]

theorem Struct.mem_sortedMembers {s : Struct} {member : Member} :
    member ∈ s.sortedMembers ↔ member ∈ s.attributes ++ s.links := by
  simp [sortedMembers, Name.mem_sortBy]

variable {naming : Naming} {m : Model}

/-- The accessors of a member whose type has a shape. -/
def Accessors.IsPair (naming : Naming) (m : Model) (member : Member) (o : Outline) : Prop :=
  ∃ shape, m.shape? member.type = some shape ∧
    o = getterOutline naming member.name.accessorName shape ++
      setterOutline naming member.name.accessorName shape

/-- A member has accessors exactly if its type has a shape, and they depend on nothing else. -/
theorem Accessors.both_eq_ok_iff {here : Option Place} {member : Member} {o : Outline} :
    both naming m here member = .ok o ↔ IsPair naming m member o := by
  unfold both
  rw [bind_eq_ok_iff]
  cases hshape : m.shape? member.type with
  | none =>
      have hsetter : setter naming m here member = .error (refuse m here member) := by
        simp [setter, hshape]
      simp only [IsPair, hsetter, hshape]
      constructor
      · rintro ⟨_, -, h⟩
        cases h
      · rintro ⟨_, h, -⟩
        cases h
  | some shape =>
      have hgetter : getter naming m here member =
          .ok (getterOutline naming member.name.accessorName shape) := by
        simp [getter, hshape]
      have hsetter : setter naming m here member =
          .ok (setterOutline naming member.name.accessorName shape) := by
        simp [setter, hshape]
      simp only [IsPair, hgetter, hsetter, hshape]
      constructor
      · rintro ⟨_, ⟨⟩, h⟩
        cases h
        exact ⟨shape, rfl, rfl⟩
      · rintro ⟨_, ⟨⟩, rfl⟩
        exact ⟨_, rfl, rfl⟩

theorem Accessors.exists_isPair_iff (naming : Naming) {member : Member} :
    (∃ o, IsPair naming m member o) ↔ ∃ shape, m.shape? member.type = some shape := by
  constructor
  · rintro ⟨_, shape, hshape, -⟩
    exact ⟨shape, hshape⟩
  · rintro ⟨shape, hshape⟩
    exact ⟨_, shape, hshape, rfl⟩

namespace Classes

/-- The class of a struct whose members have shapes. -/
def IsBody (naming : Naming) (m : Model) (s : Struct) (o : Outline) : Prop :=
  ∃ accessors, List.Forall₂ (Accessors.IsPair naming m) s.sortedMembers accessors ∧
    o = Outline.ofBlock (header naming m s)
        (Outline.blank ++ Outline.join accessors ++ constructor s ++ Outline.blank) ++
      Outline.blank

/-- A struct has a class exactly if each of its members has accessors. -/
theorem body_eq_ok_iff {index : Nat} {s : Struct} {o : Outline} :
    body naming m index s = .ok o ↔ IsBody naming m s o := by
  unfold body
  rw [bind_eq_ok_iff]
  refine exists_congr fun accessors => and_congr ?_ ?_
  · rw [mapM_eq_ok_iff, ← Struct.map_membersInOrder index s, List.forall₂_map_left_iff]
    simp only [Accessors.both_eq_ok_iff]
  · exact ⟨fun h => by cases h; rfl, fun h => h ▸ rfl⟩

theorem exists_isBody_iff {s : Struct} :
    (∃ o, IsBody naming m s o) ↔
      ∀ member ∈ s.attributes ++ s.links, ∃ shape, m.shape? member.type = some shape := by
  simp only [← Struct.mem_sortedMembers, ← Accessors.exists_isPair_iff naming,
    ← exists_forall₂_iff]
  constructor
  · rintro ⟨_, accessors, haccessors, -⟩
    exact ⟨accessors, haccessors⟩
  · rintro ⟨accessors, haccessors⟩
    exact ⟨_, accessors, haccessors, rfl⟩

/-- The lines in front of the forward declarations. -/
def introduction : Outline :=
  Outline.ofLines [
    "",
    "##",
    "# These forward declarations are required in order to avoid circular dependencies.",
    "#"]

/-- A model has an outline exactly if each of its structs has a class, and then it consists of
these. -/
theorem outline_eq_ok_iff {o : Outline} :
    outline naming m = .ok o ↔
      ∃ bodies, List.Forall₂ (IsBody naming m) (m.declarationOrder.map Prod.snd) bodies ∧
        o = .module naming.moduleName
          (introduction ++
            Outline.join ((m.declarationOrder.map Prod.snd).map (forward naming m)) ++
            Outline.join bodies ++ Outline.join ((enumerationsInOrder m).map enumeration))
          Outline.blank := by
  unfold outline ofStructs
  rw [bind_eq_ok_iff]
  refine exists_congr fun bodies => and_congr ?_ ?_
  · rw [mapM_eq_ok_iff, List.forall₂_map_left_iff]
    simp only [body_eq_ok_iff]
  · rw [List.map_map]
    exact ⟨fun h => by cases h; rfl, fun h => h ▸ rfl⟩

end Classes

namespace Generation

/-- A source has the outline of its model and the files that it requires. -/
theorem buffer_eq_ok_iff {g : Generation} {b : Buffer} :
    g.buffer = .ok b ↔ ∃ o, Classes.outline g.naming g.model = .ok o ∧
      b = Buffer.emit o (g.requires.foldl Buffer.require (Buffer.create g.fileName)) := by
  unfold buffer
  rw [bind_eq_ok_iff]
  exact exists_congr fun o => and_congr_right fun _ => ⟨fun h => by cases h; rfl, fun h => h ▸ rfl⟩

/-- The lines of a source are those of its outline. -/
theorem exists_outline {g : Generation} {b : Buffer} (h : g.buffer = .ok b) :
    ∃ o, Classes.outline g.naming g.model = .ok o ∧ b.lines = o.linesAt 0 := by
  obtain ⟨o, ho, rfl⟩ := buffer_eq_ok_iff.mp h
  refine ⟨o, ho, ?_⟩
  rw [Buffer.foldl_require, Buffer.emit_eq_grown, Buffer.lines_grown]
  rfl

theorem render_eq_ok_iff {g : Generation} {text : String} :
    g.render = .ok text ↔ ∃ b, g.buffer = .ok b ∧ b.render = text := map_eq_ok_iff

/-- A source is generated exactly when every member that is generated has a shape. -/
theorem exists_render_iff {g : Generation} :
    (∃ text, g.render = .ok text) ↔ ∀ entry ∈ g.model.declarationOrder,
      ∀ member ∈ entry.2.attributes ++ entry.2.links,
        ∃ shape, g.model.shape? member.type = some shape := by
  have hbodies : (∃ text, g.render = .ok text) ↔ ∃ bodies, List.Forall₂
      (Classes.IsBody g.naming g.model) (g.model.declarationOrder.map Prod.snd) bodies := by
    simp only [render_eq_ok_iff, buffer_eq_ok_iff, Classes.outline_eq_ok_iff]
    constructor
    · rintro ⟨_, _, ⟨_, ⟨bodies, hbodies, -⟩, -⟩, -⟩
      exact ⟨bodies, hbodies⟩
    · rintro ⟨bodies, hbodies⟩
      exact ⟨_, _, ⟨_, ⟨bodies, hbodies, rfl⟩, rfl⟩, rfl⟩
  rw [hbodies, exists_forall₂_iff]
  simp only [Classes.exists_isBody_iff, List.forall_mem_map]

end Generation

end RubyClasses
