import RubyClasses.Proofs.Classes.Refusal
import RubyClasses.Proofs.Script.LineByLine

/-! # Accessors come whole or not at all

The getter and the setter of a member find out in different ways whether its type is supported: one
asks for the class of the elements of a list, the other looks at each kind of element. They refuse
the same members, and they do so before anything has been written.
-/

namespace RubyClasses

/-- A run ends as a result asks for: it adds the lines of the outline, the last of which is empty,
and changes nothing else, or it fails and has changed nothing at all. -/
def Run.Delivers (r : Run) (s : Session) : Except MemberFault Outline → Prop
  | .ok o =>
      r.fault = none ∧ r.session.buffer = s.buffer.emit o ∧
        ∃ lines, r.session = { s with buffer := s.buffer.grown (lines ++ [""]) }
  | .error fault => r.fault = some (.raised fault.message) ∧ r.session = s

/-- A script that decides a result, whose outlines end with an empty line, delivers it. -/
theorem Script.Decides.delivers {script : Script} {result : Except MemberFault Outline}
    (h : script.Decides result)
    (hblank : ∀ o, result = .ok o → ∃ front, o = front ++ Outline.blank) (s : Session) :
    (script.run s).Delivers s result := by
  cases h with
  | @writes o hwrites =>
      obtain ⟨hsession, hfault⟩ := hwrites.run s
      obtain ⟨front, rfl⟩ := hblank o rfl
      have hlines : (front ++ Outline.blank).linesAt s.buffer.level =
          front.linesAt s.buffer.level ++ [""] := Outline.linesAt_append _ _ _
      refine ⟨hfault, ?_, _, hsession.trans (by rw [hlines])⟩
      rw [hsession, Buffer.emit_eq_grown]
  | refuses hscoped heffect =>
      obtain ⟨hsession, hfault, -⟩ := hscoped.run_has s
      rw [heffect] at hsession hfault
      exact ⟨hfault, hsession⟩

namespace Accessors

variable {naming : Naming} {m : Model} {here : Option Place} {member : Member}

/-- The setter of a member fails exactly if its type is not supported. -/
theorem exists_setter_eq_error_iff (naming : Naming) (here : Option Place) :
    (∃ fault, setter naming m here member = .error fault) ↔ ¬ m.Supports member.type := by
  rw [Model.supports_iff]
  unfold setter
  cases m.shape? member.type <;> simp

/-- A getter that is written shows the shape of its member. -/
theorem exists_shape_of_getter {o : Outline} (h : getter naming m here member = .ok o) :
    ∃ shape, m.shape? member.type = some shape ∧
      o = getterOutline naming member.name.accessorName shape := by
  have hsupports : m.Supports member.type := by
    by_contra hnot
    obtain ⟨fault, hfault⟩ := (not_supports_iff naming here).mp hnot
    rw [hfault] at h
    cases h
  obtain ⟨shape, hshape⟩ := Model.supports_iff.mp hsupports
  rw [getter_of_shape hshape] at h
  exact ⟨shape, hshape, (Except.ok.inj h).symm⟩

theorem getter_ends_blank {o : Outline} (h : getter naming m here member = .ok o) :
    ∃ front, o = front ++ Outline.blank := by
  obtain ⟨shape, -, rfl⟩ := exists_shape_of_getter h
  exact ⟨_, rfl⟩

theorem setter_ends_blank {o : Outline} (h : setter naming m here member = .ok o) :
    ∃ front, o = front ++ Outline.blank := by
  unfold setter at h
  split at h
  next => exact ⟨_, (Except.ok.inj h).symm⟩
  next => cases h

/-- Accessors end with an empty line. -/
theorem both_ends_blank {o : Outline} (h : both naming m here member = .ok o) :
    ∃ front, o = front ++ Outline.blank := by
  obtain ⟨first, -, h⟩ := bind_eq_ok_iff.mp h
  obtain ⟨second, hsecond, h⟩ := bind_eq_ok_iff.mp h
  obtain ⟨front, rfl⟩ := setter_ends_blank hsecond
  cases h
  exact ⟨first ++ front, (Outline.append_assoc _ _ _).symm⟩

/-- The setter accepts what the getter has accepted. -/
theorem calls_decides : (calls naming m here member).Decides (both naming m here member) := by
  refine getterCalls_decides.append setterCalls_decides ?_
  intro o fault hgetter
  obtain ⟨shape, hshape, -⟩ := exists_shape_of_getter hgetter
  simp [setter, hshape]

/-- The accessors of a member are generated whole or not at all. -/
structure AreWhole (naming : Naming) (m : Model) (here : Option Place) (member : Member) :
    Prop where
  getter_fails_iff : (∃ fault, getter naming m here member = .error fault) ↔
    ¬ m.Supports member.type
  setter_fails_iff : (∃ fault, setter naming m here member = .error fault) ↔
    ¬ m.Supports member.type
  both_fail_iff : (∃ fault, both naming m here member = .error fault) ↔
    ¬ m.Supports member.type
  getter_delivers : ∀ s,
    ((getterCalls naming m here member).run s).Delivers s (getter naming m here member)
  setter_delivers : ∀ s,
    ((setterCalls naming m here member).run s).Delivers s (setter naming m here member)
  both_deliver : ∀ s, ((calls naming m here member).run s).Delivers s (both naming m here member)

/-- The getter and the setter of a member fail for the same types, those that are not supported.
Their calls then leave every session as it is, and otherwise they only add lines to the buffer, the
last of which is empty. -/
theorem areWhole (naming : Naming) (m : Model) (here : Option Place) (member : Member) :
    AreWhole naming m here member where
  getter_fails_iff := (not_supports_iff naming here).symm
  setter_fails_iff := exists_setter_eq_error_iff naming here
  both_fail_iff :=
    (exists_congr fun _ => both_eq_error_iff).trans (not_supports_iff naming here).symm
  getter_delivers := getterCalls_decides.delivers fun _ => getter_ends_blank
  setter_delivers := setterCalls_decides.delivers fun _ => setter_ends_blank
  both_deliver := calls_decides.delivers fun _ => both_ends_blank

/-- A list of lists, which getter and setter refuse in different words, and a list of structs. -/
theorem areWhole_grid :
    let rows : Member := ⟨⟨["rows"]⟩, .list (.list (.primitive .string))⟩
    let grids : Member := ⟨⟨["grids"]⟩, .list (.declared 1)⟩
    let runBoth (member : Member) := (calls teamNaming gridModel none member).run begun
    let runSetter (member : Member) := (setterCalls teamNaming gridModel none member).run begun
    (runBoth rows).session = begun ∧
      (runBoth rows).fault = some (.raised "List types don't have a Ruby class name") ∧
      (runSetter rows).session = begun ∧
      (runSetter rows).fault = some (.raised (refuse gridModel none rows).message) ∧
      ∃ lines, (runBoth grids).session =
        { begun with buffer := begun.buffer.grown (lines ++ [""]) } := by
  intro rows grids runBoth runSetter
  have hrows := areWhole teamNaming gridModel none rows
  have hgrids := areWhole teamNaming gridModel none grids
  have hboth : both teamNaming gridModel none rows = .error (.naming .list) := rfl
  have hsetter : setter teamNaming gridModel none rows = .error (refuse gridModel none rows) := rfl
  have hsupports : gridModel.Supports grids.type := .many (.struct rfl)
  obtain ⟨o, hpair⟩ := (exists_both_eq_ok_iff teamNaming none).mpr hsupports
  have hrefusedBoth := hrows.both_deliver begun
  have hrefused := hrows.setter_delivers begun
  have hadded := hgrids.both_deliver begun
  rw [hboth] at hrefusedBoth
  rw [hsetter] at hrefused
  rw [hpair] at hadded
  obtain ⟨hfaultBoth, hsessionBoth⟩ := hrefusedBoth
  obtain ⟨hfault, hsession⟩ := hrefused
  obtain ⟨-, -, hlines⟩ := hadded
  exact ⟨hsessionBoth, hfaultBoth, hsession, hfault, hlines⟩

end Accessors

end RubyClasses
