import RubyClasses.Source.Script

/-! # Invariants of runs

A property of buffers that is preserved by every step of a script holds after every event of a run
and at its end, whether the steps succeed or fail.
-/

namespace RubyClasses

/-- A property holds of the buffer after every event of a run and at its end. -/
structure Run.Keeps (P : Buffer → Prop) (r : Run) : Prop where
  events : ∀ e ∈ r.events, P e.buffer
  session : P r.session.buffer

/-- A property is preserved by the actions of a script and by what opens and closes its modules and
blocks. -/
inductive Script.Preserves (P : Buffer → Prop) : Script → Prop
  | done : Preserves P .done
  | act {action : Action} {next : Script} :
      (∀ s : Session, P s.buffer → P (action.perform s).1.buffer) → Preserves P next →
      Preserves P (.act action next)
  | module {name : String} {body next : Script} :
      (∀ b : Buffer, P b → P (b.beginModule name)) → (∀ b : Buffer, P b → P (b.endModule name).1) →
      Preserves P body → Preserves P next → Preserves P (.module name body next)
  | block {header closer : String} {args : List Argument} {body next : Script} :
      (∀ (b : Buffer) (line : String), P b → P (b.openBlock line)) →
      (∀ b : Buffer, P b → P (b.closeBlock closer)) →
      Preserves P body → Preserves P next → Preserves P (.block header args closer body next)

variable {P : Buffer → Prop}

namespace Run.Keeps

variable {r : Run} {s : Session} {b : Buffer} {fault : Option ScriptFault}

theorem andThen {next : Session → Run} (h : r.Keeps P)
    (hnext : ∀ after : Session, P after.buffer → (next after).Keeps P) :
    (Script.andThen r next).Keeps P := by
  unfold Script.andThen
  split
  next => exact h
  next =>
    obtain ⟨hevents, hsession⟩ := hnext r.session h.session
    refine ⟨?_, hsession⟩
    intro e hmem
    exact (List.mem_append.mp hmem).elim (h.events e) (hevents e)

theorem single {e : Event} (he : P e.buffer) (hs : P s.buffer) : (Run.mk s [e] fault).Keeps P := by
  refine ⟨?_, hs⟩
  intro other hmem
  exact List.mem_singleton.mp hmem ▸ he

/-- What a body stands in is closed behind every event of the body. -/
theorem closed {point : Point} (h : r.Keeps P) (hb : P b) :
    (Script.closed point s r b fault).Keeps P := by
  refine ⟨?_, hb⟩
  intro e hmem
  rcases List.mem_append.mp hmem with hmem | hmem
  · exact h.events e hmem
  · exact List.mem_singleton.mp hmem ▸ hb

end Run.Keeps

/-- What every step preserves is kept by a run, on all of its ways out. -/
theorem Script.Preserves.run {script : Script} (h : script.Preserves P) {s : Session}
    (hs : P s.buffer) : (script.run s).Keeps P := by
  induction h generalizing s with
  | done => exact ⟨by simp [Script.run], hs⟩
  | @act action next hperform _ ih =>
      have hperformed := hperform s hs
      have hevent : P (action.event (action.perform s).1 (action.perform s).2).buffer := by
        cases (action.perform s).2 <;> exact hperformed
      exact .andThen (.single hevent hperformed) fun _ => ih
  | @module name body next hopen hclose _ _ ihBody ih =>
      have hbegun := hopen s.buffer hs
      have hinside : (Script.andThen (Script.opened .moduleOpened
          (Action.onBuffer s (s.buffer.beginModule name))) (Script.run body)).Keeps P :=
        .andThen (.single hbegun hbegun) fun _ => ihBody
      exact .andThen (hinside.closed (hclose _ hinside.session)) fun _ => ih
  | @block header closer args body next hopen hclose _ _ ihBody ih =>
      simp only [Script.run]
      cases Template.line header args with
      | error fault => exact .single hs hs
      | ok line =>
          have hopened := hopen s.buffer line hs
          have hinside : (Script.andThen (Script.opened .blockOpened
              (Action.onBuffer s (s.buffer.openBlock line))) (Script.run body)).Keeps P :=
            .andThen (.single hopened hopened) fun _ => ihBody
          exact .andThen (hinside.closed (hclose _ hinside.session)) fun _ => ih

end RubyClasses
