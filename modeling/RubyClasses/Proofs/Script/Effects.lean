import RubyClasses.Proofs.Outline.Lines
import RubyClasses.Proofs.Source.Requires
import RubyClasses.Source.Script

/-! # What scoped scripts do

A scoped script writes at the current level, requires files, looks at the source and fails; blocks
and modules are opened around scripts only. What it does can be told without a buffer: it writes an
outline and requires some files until an action or the header of a block fails. Running the script
has this effect on every buffer, and closing blocks and modules adds no fault of its own.
-/

namespace RubyClasses

/-- What a script does to a buffer. -/
structure Effect where
  outline : Outline
  requires : List String
  fault : Option ScriptFault

namespace Effect

/-- The effect of a script that does nothing. -/
def still : Effect := ⟨.done, [], none⟩

/-- The effect of a script that raises a fault first of all. -/
def failed (fault : ScriptFault) : Effect := ⟨.done, [], some fault⟩

/-- One effect after another, unless the first one ends with a fault. -/
def andThen (first second : Effect) : Effect :=
  match first.fault with
  | some _ => first
  | none => ⟨first.outline ++ second.outline, first.requires ++ second.requires, second.fault⟩

/-- An effect whose outline stands inside another one. -/
def within (e : Effect) (around : Outline → Outline) : Effect :=
  { e with outline := around e.outline }

/-- A buffer after an effect. Files are required first, which does not matter for the lines. -/
def apply (e : Effect) (b : Buffer) : Buffer :=
  Buffer.emit e.outline (e.requires.foldl Buffer.require b)

end Effect

/-- The effect of a scoped action. Looking at the source has none. -/
def Action.effect : Action → Effect
  | write template args =>
      match Template.line template args with
      | .error fault => .failed (.template fault)
      | .ok text => ⟨.line text .done, [], none⟩
  | require name => ⟨.done, [name], none⟩
  | fail message => .failed (.raised message)
  | _ => .still

/-- The effect of a scoped script. A block whose header cannot be written is not opened, and a
fault in the body of a block or module keeps what comes after it from happening. -/
def Script.effect : Script → Effect
  | done => .still
  | act action next => action.effect.andThen next.effect
  | module name body next =>
      (body.effect.within fun inner => .module name inner .done).andThen next.effect
  | block header args closer body next =>
      match Template.line header args with
      | .error fault => .failed (.template fault)
      | .ok text =>
          (body.effect.within fun inner => .block text closer inner .done).andThen next.effect

/-- Actions that leave the level and the open modules alone. -/
inductive Action.IsScoped : Action → Prop
  | write (template : String) (args : List Argument) : IsScoped (.write template args)
  | require (name : String) : IsScoped (.require name)
  | fail (message : String) : IsScoped (.fail message)
  | render : IsScoped .render
  | display : IsScoped .display

/-- Scripts of scoped actions, at any depth of blocks and modules. -/
inductive Script.IsScoped : Script → Prop
  | done : IsScoped .done
  | act {action : Action} {next : Script} : action.IsScoped → IsScoped next →
      IsScoped (.act action next)
  | module {name : String} {body next : Script} : IsScoped body → IsScoped next →
      IsScoped (.module name body next)
  | block {header closer : String} {args : List Argument} {body next : Script} :
      IsScoped body → IsScoped next → IsScoped (.block header args closer body next)

/-- Faults arise at these points. -/
def Point.raises : Point → Bool
  | action _ | blockRefused => true
  | _ => false

/-- Blocks and modules are closed at these points. -/
def Point.closes : Point → Bool
  | blockClosed | moduleClosed => true
  | _ => false

/-- How the events of a run tell its end. Behind the first fault blocks and modules are closed, and
nothing else happens; the fault is the same all the way out. -/
inductive Ended : List Event → Option ScriptFault → Prop
  | normally {events : List Event} : (∀ e ∈ events, e.fault = none) → Ended events none
  | abruptly {before after : List Event} {first : Event} {fault : ScriptFault} :
      (∀ e ∈ before, e.fault = none) → first.point.raises = true → first.fault = some fault →
      (∀ e ∈ after, e.point.closes = true ∧ e.fault = some fault) →
      Ended (before ++ first :: after) (some fault)

namespace Ended

variable {events more : List Event} {fault : Option ScriptFault}

theorem prepend (hevents : ∀ e ∈ events, e.fault = none) (h : Ended more fault) :
    Ended (events ++ more) fault := by
  cases h with
  | normally hmore =>
      apply normally
      intro e hmem
      exact (List.mem_append.mp hmem).elim (hevents e) (hmore e)
  | abruptly hbefore hpoint hfault hafter =>
      rw [← List.append_assoc]
      refine abruptly ?_ hpoint hfault hafter
      intro e hmem
      exact (List.mem_append.mp hmem).elim (hevents e) (hbefore e)

/-- Closing a block or a module keeps the end of what happened inside. -/
theorem close (h : Ended events fault) {point : Point} (hpoint : point.closes = true)
    (b : Buffer) (shown : Option String) :
    Ended (events ++ [⟨point, b, shown, fault⟩]) fault := by
  cases h with
  | normally hevents =>
      apply normally
      intro e hmem
      rcases List.mem_append.mp hmem with hmem | hmem
      · exact hevents e hmem
      · rw [List.mem_singleton.mp hmem]
  | abruptly hbefore hraises hfault hafter =>
      rw [List.append_assoc, List.cons_append]
      refine abruptly hbefore hraises hfault ?_
      intro e hmem
      rcases List.mem_append.mp hmem with hmem | hmem
      · exact hafter e hmem
      · rw [List.mem_singleton.mp hmem]
        exact ⟨hpoint, rfl⟩

theorem single {e : Event} (hpoint : e.point.raises = true) : Ended [e] e.fault := by
  cases hfault : e.fault with
  | none =>
      apply normally
      intro other hmem
      rw [List.mem_singleton.mp hmem, hfault]
  | some fault =>
      have hparts : Ended ([] ++ e :: []) (some fault) :=
        abruptly (by simp) hpoint hfault (by simp)
      exact hparts

theorem forall_fault_eq_none (h : Ended events none) : ∀ e ∈ events, e.fault = none := by
  cases h with
  | normally hevents => exact hevents

end Ended

namespace Buffer

/-- Closing a module name closes exactly the modules that it opened. -/
theorem endModule_emit (o : Outline) (b : Buffer) (name : String) :
    (emit o (b.beginModule name)).endModule name = (emit (.module name o .done) b, true) := by
  have hclosed := closeModules_eq
    ((b.grown (Outline.openings b.level (Text.moduleParts name))).grown
      (o.linesAt (b.level + (Text.moduleParts name).length)))
    b.modules (Text.moduleParts name) b.level
  have hwereOpen : ((emit o (b.beginModule name)).endModule name).2 = true := by
    rw [emit_eq_grown, beginModule, foldl_openModule, endModule]
    exact congrArg Prod.snd hclosed
  exact Prod.ext rfl hwereOpen

theorem foldl_require_emit (o : Outline) (b : Buffer) (names : List String) :
    names.foldl require (emit o b) = emit o (names.foldl require b) := by
  rw [emit_eq_grown, emit_eq_grown, foldl_require, foldl_require]
  rfl

theorem foldl_require_beginModule (b : Buffer) (name : String) (names : List String) :
    names.foldl require (b.beginModule name) = (names.foldl require b).beginModule name := by
  rw [beginModule, beginModule, foldl_openModule, foldl_openModule, foldl_require, foldl_require]
  rfl

theorem foldl_require_openBlock (b : Buffer) (header : String) (names : List String) :
    names.foldl require (b.openBlock header) = (names.foldl require b).openBlock header := by
  rw [foldl_require, foldl_require]
  rfl

end Buffer

namespace Effect

theorem apply_andThen (first second : Effect) (b : Buffer) (hfirst : first.fault = none) :
    (first.andThen second).apply b = second.apply (first.apply b) := by
  simp only [andThen, hfirst, apply]
  rw [Buffer.foldl_require_emit, Buffer.emit_append, List.foldl_append]

/-- An effect inside the modules of a name puts its outline into them, and closing them works. -/
theorem apply_module (e : Effect) (b : Buffer) (name : String) :
    (e.apply (b.beginModule name)).endModule name =
      ((e.within fun inner => .module name inner .done).apply b, true) := by
  unfold apply
  rw [Buffer.foldl_require_beginModule, Buffer.endModule_emit]
  rfl

/-- An effect inside a block puts its outline between the header and the closing line. -/
theorem apply_block (e : Effect) (b : Buffer) (header closer : String) :
    (e.apply (b.openBlock header)).closeBlock closer =
      (e.within fun inner => .block header closer inner .done).apply b := by
  unfold apply
  rw [Buffer.foldl_require_openBlock]
  rfl

/-- An effect adds the lines of its outline at the level of the buffer. -/
theorem apply_eq_grown (e : Effect) (b : Buffer) :
    e.apply b = (e.requires.foldl Buffer.require b).grown (e.outline.linesAt b.level) := by
  rw [apply, Buffer.emit_eq_grown, Buffer.foldl_require]

end Effect

/-- A run has an effect: it changes the buffer accordingly and ends with the fault of the effect. -/
structure Run.Has (r : Run) (s : Session) (e : Effect) : Prop where
  session_eq : r.session = { s with buffer := e.apply s.buffer }
  fault_eq : r.fault = e.fault
  ended : Ended r.events r.fault

namespace Run.Has

variable {r : Run} {s : Session} {first second : Effect} {next : Session → Run}

/-- One run after another has one effect after another. -/
theorem andThen (h : r.Has s first) (hnext : ∀ after, (next after).Has after second) :
    (Script.andThen r next).Has s (first.andThen second) := by
  obtain ⟨hsession, hfault, hended⟩ := h
  cases hfirst : first.fault with
  | some fault =>
      have hrun : r.fault = some fault := hfault.trans hfirst
      have hthen : Script.andThen r next = r := by simp [Script.andThen, hrun]
      have heffect : first.andThen second = first := by simp [Effect.andThen, hfirst]
      rw [hthen, heffect]
      exact ⟨hsession, hfault, hended⟩
  | none =>
      have hrun : r.fault = none := hfault.trans hfirst
      have hthen : Script.andThen r next =
          { next r.session with events := r.events ++ (next r.session).events } := by
        simp [Script.andThen, hrun]
      obtain ⟨hsession', hfault', hended'⟩ := hnext r.session
      rw [hthen]
      refine ⟨?_, ?_, ?_⟩
      · rw [hsession', hsession, Effect.apply_andThen _ _ _ hfirst]
      · simpa [Effect.andThen, hfirst] using hfault'
      · exact hended'.prepend (hrun ▸ hended).forall_fault_eq_none

/-- Opening a module or a block is no fault. -/
theorem opened {point : Point} {inner : Effect} {body : Session → Run}
    (h : (body s).Has s inner) : (Script.andThen (Script.opened point s) body).Has s inner where
  session_eq := h.session_eq
  fault_eq := h.fault_eq
  ended := by
    apply h.ended.prepend
    intro e hmem
    rw [List.mem_singleton.mp hmem]

/-- Closing what a body stands in keeps its fault. -/
theorem closed {point : Point} {e : Effect} {b : Buffer} (hpoint : point.closes = true)
    (hended : Ended r.events r.fault) (hfault : r.fault = e.fault)
    (hsession : { r.session with buffer := b } = { s with buffer := e.apply s.buffer }) :
    (Script.closed point r.session r b none).Has s e where
  session_eq := hsession
  fault_eq := hfault
  ended := hended.close hpoint b none

end Run.Has

theorem Action.raises_event (action : Action) (s : Session)
    (outcome : Except ScriptFault (Option String)) :
    (action.event s outcome).point.raises = true := by
  cases outcome <;> rfl

/-- A scoped action has its effect, and its event carries the fault of the effect. -/
theorem Action.IsScoped.perform {action : Action} (h : action.IsScoped) (s : Session) :
    (action.perform s).1 = { s with buffer := action.effect.apply s.buffer } ∧
      (action.event (action.perform s).1 (action.perform s).2).fault = action.effect.fault := by
  cases h with
  | write template args =>
      simp only [Action.perform, Action.effect]
      cases Template.line template args with
      | error fault => exact ⟨rfl, rfl⟩
      | ok text => exact ⟨rfl, rfl⟩
  | require name => exact ⟨rfl, rfl⟩
  | fail message => exact ⟨rfl, rfl⟩
  | render => exact ⟨rfl, rfl⟩
  | display => exact ⟨rfl, rfl⟩

/-- Running a scoped script has its effect. -/
theorem Script.IsScoped.run_has {script : Script} (h : script.IsScoped) (s : Session) :
    (script.run s).Has s script.effect := by
  induction h generalizing s with
  | done =>
      refine ⟨rfl, rfl, .normally ?_⟩
      intro e hmem
      cases hmem
  | @act action next haction _ ih =>
      obtain ⟨hsession, hfault⟩ := haction.perform s
      exact Run.Has.andThen ⟨hsession, hfault, .single (action.raises_event _ _)⟩ ih
  | @module name body next _ _ ihBody ih =>
      let start := Action.onBuffer s (s.buffer.beginModule name)
      let inside := andThen (opened .moduleOpened start) (run body)
      have hinside : inside.Has start body.effect := (ihBody start).opened
      -- the body left the modules as it found them, so those of the name are there to be closed
      have hclosing : inside.session.buffer.endModule name =
          ((body.effect.within fun inner => .module name inner .done).apply s.buffer, true) := by
        rw [hinside.session_eq]
        exact body.effect.apply_module s.buffer name
      change (andThen (closed .moduleClosed inside.session inside
        (inside.session.buffer.endModule name).1
        (if (inside.session.buffer.endModule name).2 then none else some .noOpenModule))
        (run next)).Has s _
      rw [hclosing]
      refine Run.Has.andThen (.closed rfl hinside.ended hinside.fault_eq ?_) ih
      rw [hinside.session_eq]
      rfl
  | @block header closer args body next _ _ ihBody ih =>
      simp only [run, effect]
      cases Template.line header args with
      | error fault => exact ⟨rfl, rfl, .single rfl⟩
      | ok text =>
          let start := Action.onBuffer s (s.buffer.openBlock text)
          let inside := andThen (opened .blockOpened start) (run body)
          have hinside : inside.Has start body.effect := (ihBody start).opened
          refine Run.Has.andThen (.closed rfl hinside.ended hinside.fault_eq ?_) ih
          have hclosing := body.effect.apply_block s.buffer text closer
          change { inside.session with buffer := inside.session.buffer.closeBlock closer } = _
          rw [hinside.session_eq]
          exact congrArg (fun b => { s with buffer := b }) hclosing

end RubyClasses
