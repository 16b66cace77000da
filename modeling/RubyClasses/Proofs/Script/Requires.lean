import Mathlib.Data.List.Sort
import RubyClasses.Proofs.Script.Growth

/-! # Requires among other actions

Requiring a file commutes with everything else that a script does. Two scripts that are the same
without their requires do the same apart from them, wherever they fail. When the files that they
come to require are the same too, in whatever order and however often, they end with the same
source.
-/

namespace RubyClasses

/-- Whether an action does not write to the disk. -/
def Action.staysOffDisk : Action → Bool
  | persist _ => false
  | _ => true

namespace Script

/-- A script without the actions that require a file. -/
def withoutRequires : Script → Script
  | done => done
  | act (.require _) next => withoutRequires next
  | act action next => act action (withoutRequires next)
  | module name body next => module name (withoutRequires body) (withoutRequires next)
  | block header args closer body next =>
      block header args closer (withoutRequires body) (withoutRequires next)

/-- Whether no action of a script writes to the disk. -/
def staysOffDisk : Script → Bool
  | done => true
  | act action next => action.staysOffDisk && staysOffDisk next
  | module _ body next | block _ _ _ body next => staysOffDisk body && staysOffDisk next

theorem withoutRequires_act {action : Action} (h : ∀ name, action ≠ .require name)
    (next : Script) : (act action next).withoutRequires = act action next.withoutRequires := by
  cases action with
  | require name => exact absurd rfl (h name)
  | _ => rfl

/-- Whether a script writes to the disk does not depend on its requires. -/
theorem staysOffDisk_withoutRequires (script : Script) :
    script.withoutRequires.staysOffDisk = script.staysOffDisk := by
  induction script with
  | done => rfl
  | act action next ih =>
      by_cases hrequire : ∃ name, action = .require name
      · obtain ⟨name, rfl⟩ := hrequire
        exact ih
      · rw [withoutRequires_act (not_exists.mp hrequire), staysOffDisk, ih, staysOffDisk]
  | module name body next ihBody ih => rw [withoutRequires, staysOffDisk, ihBody, ih, staysOffDisk]
  | block header args closer body next ihBody ih =>
      rw [withoutRequires, staysOffDisk, ihBody, ih, staysOffDisk]

end Script

/-- A buffer with other names of required files. -/
def Buffer.requiring (b : Buffer) (names : List String) : Buffer := { b with requires := names }

/-- A session with other names of required files. -/
def Session.requiring (s : Session) (names : List String) : Session :=
  { s with buffer := s.buffer.requiring names }

namespace Buffer

variable (b : Buffer) (names : List String)

theorem addLine_requiring (text : String) :
    (b.requiring names).addLine text = (b.addLine text).requiring names := by
  unfold addLine
  split <;> split <;> rfl

theorem beginModule_requiring (name : String) :
    (b.requiring names).beginModule name = (b.beginModule name).requiring names := by
  rw [beginModule, beginModule, foldl_openModule, foldl_openModule]
  rfl

/-- How many modules are closed, and whether they were open, does not depend on the requires. -/
theorem closeModules_requiring (count : Nat) :
    closeModules count (b.requiring names) =
      ((closeModules count b).1.requiring names, (closeModules count b).2) := by
  induction count generalizing b with
  | zero => rfl
  | succ count ih =>
      have hmodules : ((b.requiring names).closeBlock "end").modules =
          (b.closeBlock "end").modules := rfl
      unfold closeModules
      dsimp only
      rw [hmodules]
      split
      next => rfl
      next => exact ih { b.closeBlock "end" with modules := (b.closeBlock "end").modules.dropLast }

theorem endModule_requiring (name : String) :
    (b.requiring names).endModule name =
      ((b.endModule name).1.requiring names, (b.endModule name).2) :=
  b.closeModules_requiring names _

end Buffer

/-- What happens at an event, but for requires. -/
def Event.apart (e : Event) : Option (Point × Buffer × Option ScriptFault) :=
  match e.point.required? with
  | some _ => none
  | none => some (e.point, e.buffer.requiring [], e.fault)

/-- All that happens in a run, but for requires. -/
def Run.trail (r : Run) : List (Point × Buffer × Option ScriptFault) :=
  r.events.filterMap Event.apart

/-- The files that are required at some events, in the order in which that happens. -/
def Event.requiredAt (events : List Event) : List String :=
  events.filterMap fun e => e.point.required?

/-- A run that requires nothing does what another one does, and keeps the names it starts with. -/
structure Run.Mirrors (r other : Run) (names : List String) : Prop where
  session_eq : r.session = other.session.requiring names
  fault_eq : r.fault = other.fault
  trail_eq : r.trail = other.trail

namespace Run.Mirrors

variable {r other : Run} {names : List String}

theorem andThen {next next' : Session → Run} (h : r.Mirrors other names)
    (hnext : ∀ s, (next (s.requiring names)).Mirrors (next' s) names) :
    (Script.andThen r next).Mirrors (Script.andThen other next') names := by
  unfold Script.andThen
  rw [h.fault_eq]
  split
  next hfault => exact h
  next hfault =>
    obtain ⟨hsession, hfault, htrail⟩ := hnext other.session
    rw [h.session_eq]
    refine ⟨hsession, hfault, ?_⟩
    rw [trail, trail, List.filterMap_append, List.filterMap_append]
    exact congrArg₂ _ h.trail_eq htrail

/-- What stands around the bodies of two runs is the same, but for requires. -/
theorem within {opening closing : Point} {s : Session} {body body' : Session → Run}
    {after after' : Buffer} {fault fault' : Option ScriptFault}
    (h : (body (s.requiring names)).Mirrors (body' s) names)
    (hafter : after = after'.requiring names) (hfault : fault = fault') :
    (Script.closed closing (body (s.requiring names)).session
        (Script.andThen (Script.opened opening (s.requiring names)) body) after fault).Mirrors
      (Script.closed closing (body' s).session (Script.andThen (Script.opened opening s) body')
        after' fault') names := by
  obtain ⟨hsession, hends, htrail⟩ := h
  have hopening : Event.apart ⟨opening, (s.requiring names).buffer, none, none⟩ =
      Event.apart ⟨opening, s.buffer, none, none⟩ := rfl
  have hclosing : ∀ fault, Event.apart ⟨closing, after'.requiring names, none, fault⟩ =
      Event.apart ⟨closing, after', none, fault⟩ := fun _ => rfl
  subst hafter hfault
  refine ⟨?_, congrArg fault.or hends, ?_⟩
  · unfold Script.closed
    rw [hsession]
    rfl
  · simp only [trail, Script.closed, Script.andThen, Script.opened, List.filterMap_append,
      List.filterMap_cons, List.filterMap_nil] at htrail ⊢
    rw [hopening, hclosing, hends, htrail]

end Run.Mirrors

/-- An action that neither requires a file nor writes one has nothing to do with requires. -/
theorem Action.performed_mirrors {action : Action} (hrequire : ∀ name, action ≠ .require name)
    (hdisk : action.staysOffDisk = true) (s : Session) (names : List String) :
    (action.performed (s.requiring names)).Mirrors (action.performed s) names := by
  have hbuffer : (s.requiring names).buffer = s.buffer.requiring names := rfl
  cases action with
  | write template args =>
      simp only [performed, perform]
      cases Template.line template args with
      | error fault => exact ⟨rfl, rfl, rfl⟩
      | ok text => exact ⟨rfl, rfl, rfl⟩
  | addLine template args =>
      simp only [performed, perform]
      cases Template.line template args with
      | error fault => exact ⟨rfl, rfl, rfl⟩
      | ok text =>
          dsimp only
          rw [hbuffer, Buffer.addLine_requiring]
          exact ⟨rfl, rfl, rfl⟩
  | require name => exact absurd rfl (hrequire name)
  | beginModule name =>
      simp only [performed, perform]
      rw [hbuffer, Buffer.beginModule_requiring]
      exact ⟨rfl, rfl, rfl⟩
  | endModule name =>
      simp only [performed, perform]
      rw [hbuffer, Buffer.endModule_requiring]
      dsimp only
      split <;> exact ⟨rfl, rfl, rfl⟩
  | fail message => exact ⟨rfl, rfl, rfl⟩
  | render => exact ⟨rfl, rfl, rfl⟩
  | display => exact ⟨rfl, rfl, rfl⟩
  | filePath directory => exact ⟨rfl, rfl, rfl⟩
  | persist directory => cases hdisk

/-- Taking the requires out of a script takes nothing else out of its runs. -/
theorem Script.run_withoutRequires {script : Script} (h : script.staysOffDisk = true) (s : Session)
    (names : List String) :
    (script.withoutRequires.run (s.requiring names)).Mirrors (script.run s) names := by
  induction script generalizing s with
  | done => exact ⟨rfl, rfl, rfl⟩
  | act action next ih =>
      obtain ⟨haction, hnext⟩ := Bool.and_eq_true_iff.mp h
      by_cases hrequire : ∃ name, action = .require name
      · obtain ⟨name, rfl⟩ := hrequire
        -- the names of the session are replaced anyway
        obtain ⟨hsession, hfault, htrail⟩ := ih hnext (Action.onBuffer s (s.buffer.require name))
        exact ⟨hsession, hfault, htrail⟩
      · have hperformed := Action.performed_mirrors (not_exists.mp hrequire) haction s names
        rw [withoutRequires_act (not_exists.mp hrequire)]
        exact hperformed.andThen (ih hnext)
  | module name body next ihBody ih =>
      obtain ⟨hbody, hnext⟩ := Bool.and_eq_true_iff.mp h
      let start := Action.onBuffer s (s.buffer.beginModule name)
      have hstart : Action.onBuffer (s.requiring names)
          ((s.requiring names).buffer.beginModule name) = start.requiring names :=
        congrArg (fun b => { s with buffer := b }) (s.buffer.beginModule_requiring names name)
      have hinner := ihBody hbody start
      have hclosing : (body.withoutRequires.run (start.requiring names)).session.buffer.endModule
          name = (((body.run start).session.buffer.endModule name).1.requiring names,
            ((body.run start).session.buffer.endModule name).2) := by
        rw [hinner.session_eq]
        exact (body.run start).session.buffer.endModule_requiring names name
      simp only [withoutRequires, run]
      rw [hstart]
      exact (hinner.within (congrArg Prod.fst hclosing)
        (congrArg (fun wereOpen => if wereOpen then none else some .noOpenModule)
          (congrArg Prod.snd hclosing))).andThen (ih hnext)
  | block header args closer body next ihBody ih =>
      obtain ⟨hbody, hnext⟩ := Bool.and_eq_true_iff.mp h
      simp only [withoutRequires, run]
      cases Template.line header args with
      | error fault => exact ⟨rfl, rfl, rfl⟩
      | ok text =>
          let start := Action.onBuffer s (s.buffer.openBlock text)
          have hinner := ihBody hbody start
          have hclosing :
              (body.withoutRequires.run (start.requiring names)).session.buffer.closeBlock closer =
                ((body.run start).session.buffer.closeBlock closer).requiring names := by
            rw [hinner.session_eq]
            rfl
          exact (hinner.within hclosing rfl).andThen (ih hnext)

/-- Two runs from a buffer differ in their requires only. -/
structure Run.Agrees (start : Buffer) (r other : Run) : Prop where
  fault_eq : r.fault = other.fault
  /-- Even on the way, nothing but a require happens in one of them alone. -/
  trail_eq : r.trail = other.trail
  lines_eq : r.session.buffer.lines = other.session.buffer.lines
  level_eq : r.session.buffer.level = other.session.buffer.level
  modules_eq : r.session.buffer.modules = other.session.buffer.modules
  /-- When the same files are required in the end, the source is the same too. -/
  session_eq : (∀ name, name ∈ Event.requiredAt r.events ∨ name ∈ start.requires ↔
      name ∈ Event.requiredAt other.events ∨ name ∈ start.requires) →
    r.session = other.session ∧ r.session.buffer.render = other.session.buffer.render

/-- The events behind a buffer write lines one behind the other. -/
inductive Written : Buffer → List Event → List String → Prop
  | nil {b : Buffer} : Written b [] []
  | cons {b : Buffer} {e : Event} {events : List Event} {lines rest : List String} :
      e.point.Writes b lines → Written e.buffer events rest →
      Written b (e :: events) (lines ++ rest)

/-- The source of a buffer consists of the license, the names of the files that have been required
up to then and the lines that have been written up to then. -/
structure Layout (start : Buffer) (events : List Event) (b : Buffer) (names written : List String) :
    Prop where
  ascending : names.Pairwise (· < ·)
  mem_iff (name : String) : name ∈ names ↔ name ∈ Event.requiredAt events ∨ name ∈ start.requires
  written_events : Written start events written
  render_eq : b.render = String.join
    ((licenseHeader ++ "" :: (names.map (fun name => "require '" ++ name ++ "'") ++
      "" :: (start.lines ++ written))).map (· ++ "\n"))

/-- Whenever the source is looked at in a run, it has its layout. -/
structure Run.IsLaidOut (start : Buffer) (r : Run) : Prop where
  exists_at_end : ∃ names written, Layout start r.events r.session.buffer names written
  exists_at_event : ∀ before e after, r.events = before ++ e :: after →
    ∃ names written, Layout start (before ++ [e]) e.buffer names written

namespace Traced

variable {b final : Buffer} {events : List Event}

/-- The lines behind a trace are those before it and then those that were written along it. -/
theorem exists_written (h : Traced b events final) :
    ∃ written, Written b events written ∧ final.lines = b.lines ++ written := by
  induction h with
  | nil => exact ⟨[], .nil, (List.append_nil _).symm⟩
  | cons hstep _ ih =>
      obtain ⟨rest, hrest, hfinal⟩ := ih
      obtain ⟨lines, hwrites, hlines, -⟩ := hstep.exists_written
      exact ⟨lines ++ rest, .cons hwrites hrest, by rw [hfinal, hlines, List.append_assoc]⟩

theorem requires_eq (h : Traced b events final) :
    final.requires = (Event.requiredAt events).foldl
      (fun found name => Buffer.insertAscending name found) b.requires := by
  induction h with
  | nil => rfl
  | @cons b final e events hstep _ ih =>
      rw [ih, hstep.requires_eq, Event.requiredAt, Event.requiredAt, List.filterMap_cons]
      cases e.point.required? with
      | none => rfl
      | some name => rfl

/-- Required behind a trace is what was required before it or along it. -/
theorem mem_requires_iff (h : Traced b events final) (name : String) :
    name ∈ final.requires ↔ name ∈ Event.requiredAt events ∨ name ∈ b.requires := by
  rw [h.requires_eq, Buffer.mem_foldl_insertAscending]

/-- Along a trace the names of required files stay in ascending order, so none is there twice. -/
theorem pairwise_requires (h : Traced b events final) (hb : b.requires.Pairwise (· < ·)) :
    final.requires.Pairwise (· < ·) := by
  rw [h.requires_eq]
  exact Buffer.pairwise_foldl_insertAscending _ hb

/-- The source behind a trace has its layout. -/
theorem exists_layout (h : Traced b events final) (hb : b.requires.Pairwise (· < ·)) :
    ∃ names written, Layout b events final names written := by
  obtain ⟨written, hwritten, hlines⟩ := h.exists_written
  refine ⟨_, written, h.pairwise_requires hb, h.mem_requires_iff, hwritten, ?_⟩
  rw [Buffer.render, hlines]
  simp only [List.append_assoc, List.cons_append, List.nil_append]

theorem upTo {before after : List Event} {e : Event}
    (h : Traced b (before ++ e :: after) final) : Traced b (before ++ [e]) e.buffer := by
  induction before generalizing b with
  | nil =>
      cases h with
      | cons hstep _ => exact .cons hstep .nil
  | cons first before ih =>
      cases h with
      | cons hstep hrest => exact .cons hstep (ih hrest)

end Traced

namespace Script

variable {s : Session} (hs : s.buffer.requires.Pairwise (· < ·))

include hs in
/-- Scripts that are the same without their requires differ in nothing but their requires. -/
theorem run_agrees {first second : Script} (hdisk : first.staysOffDisk = true)
    (hsame : first.withoutRequires = second.withoutRequires) :
    (first.run s).Agrees s.buffer (second.run s) := by
  have hdisk' : second.staysOffDisk = true := by
    rw [← staysOffDisk_withoutRequires, ← hsame, staysOffDisk_withoutRequires, hdisk]
  -- both runs do what the common rest of the scripts does
  have hfirst := run_withoutRequires hdisk s []
  have hsecond := run_withoutRequires hdisk' s []
  rw [← hsame] at hsecond
  have hsession : (first.run s).session.requiring [] = (second.run s).session.requiring [] :=
    hfirst.session_eq.symm.trans hsecond.session_eq
  have heq : ∀ {α : Type} (f : Session → α), (∀ s, f (s.requiring []) = f s) →
      f (first.run s).session = f (second.run s).session := by
    intro α f hf
    rw [← hf, hsession, hf]
  refine ⟨hfirst.fault_eq.symm.trans hsecond.fault_eq, hfirst.trail_eq.symm.trans hsecond.trail_eq,
    heq (·.buffer.lines) fun _ => rfl, heq (·.buffer.level) fun _ => rfl,
    heq (·.buffer.modules) fun _ => rfl, ?_⟩
  intro hnames
  have htraced := (first.run_unfolds s).traced
  have htraced' := (second.run_unfolds s).traced
  have hrequires : (first.run s).session.buffer.requires =
      (second.run s).session.buffer.requires :=
    (htraced.pairwise_requires hs).eq_of_mem_iff (htraced'.pairwise_requires hs)
      fun name => by rw [htraced.mem_requires_iff, htraced'.mem_requires_iff, hnames]
  have hsession' : (first.run s).session = (second.run s).session :=
    calc (first.run s).session
        = ((first.run s).session.requiring []).requiring
            (first.run s).session.buffer.requires := rfl
      _ = ((second.run s).session.requiring []).requiring
            (second.run s).session.buffer.requires := by rw [hsession, hrequires]
      _ = (second.run s).session := rfl
  exact ⟨hsession', by rw [hsession']⟩

include hs in
/-- At every event of a run, and at its end, the source has its layout. -/
theorem run_isLaidOut (script : Script) : (script.run s).IsLaidOut s.buffer := by
  have htraced := (script.run_unfolds s).traced
  refine ⟨htraced.exists_layout hs, ?_⟩
  intro before e after hevents
  rw [hevents] at htraced
  exact htraced.upTo.exists_layout hs

/-- Requires commute with everything, and the source names each required file once. -/
theorem requires_commute {s : Session} (hs : s.buffer.requires.Pairwise (· < ·)) :
    (∀ first second : Script, first.staysOffDisk = true →
      first.withoutRequires = second.withoutRequires →
        (first.run s).Agrees s.buffer (second.run s)) ∧
    ∀ script : Script, (script.run s).IsLaidOut s.buffer :=
  ⟨fun _ _ hdisk hsame => run_agrees hs hdisk hsame, run_isLaidOut hs⟩

/-- A script that requires a file at its start and another one in a block that fails. -/
def requiringEarly : Script :=
  let members : Script :=
    .act (.require "date") <| .act (.write "attr :id" []) <| .act (.fail "stop") .done
  let classes : Script :=
    .block "class %s" [.text "Vm"] "end" members <| .act (.require "never") .done
  .act (.require "set") <| .module "Acme::V4" classes .done

/-- The same script with its requires in other places, and one of them twice. -/
def requiringLate : Script :=
  let members : Script :=
    .act (.write "attr :id" []) <| .act (.require "set") <| .act (.require "date") <|
      .act (.fail "stop") .done
  let classes : Script :=
    .act (.require "date") <| .block "class %s" [.text "Vm"] "end" members .done
  .module "Acme::V4" classes .done

/-- Both scripts fail inside of a class, behind different requires, and leave the same source. -/
theorem requires_commute_requiringEarly :
    (Buffer.create "acme/v4/types").requires.Pairwise (· < ·) ∧
      requiringEarly.staysOffDisk = true ∧
      requiringEarly.withoutRequires = requiringLate.withoutRequires ∧
      let s : Session := ⟨.create "acme/v4/types", .empty [], []⟩
      let r := requiringEarly.run s
      let other := requiringLate.run s
      Event.requiredAt r.events = ["set", "date"] ∧
        Event.requiredAt other.events = ["date", "set", "date"] ∧
        r.fault = some (.raised "stop") ∧ other.fault = r.fault ∧ r.session = other.session ∧
        r.session.buffer.render = other.session.buffer.render ∧
        ∃ names written, Layout s.buffer r.events r.session.buffer names written := by
  have hs : (Buffer.create "acme/v4/types").requires.Pairwise (· < ·) := List.Pairwise.nil
  have hdisk : requiringEarly.staysOffDisk = true := rfl
  have hsame : requiringEarly.withoutRequires = requiringLate.withoutRequires := rfl
  refine ⟨hs, hdisk, hsame, ?_⟩
  intro s r other
  have hearly : Event.requiredAt r.events = ["set", "date"] := by decide +kernel
  have hlate : Event.requiredAt other.events = ["date", "set", "date"] := by decide +kernel
  have hnames : ∀ name, name ∈ Event.requiredAt r.events ∨ name ∈ s.buffer.requires ↔
      name ∈ Event.requiredAt other.events ∨ name ∈ s.buffer.requires := by
    intro name
    rw [hearly, hlate]
    grind
  have hfault : r.fault = some (.raised "stop") := by decide +kernel
  obtain ⟨hagree, hlaidOut⟩ := requires_commute (s := s) hs
  have hruns := hagree requiringEarly requiringLate hdisk hsame
  obtain ⟨hsession, hrender⟩ := hruns.session_eq hnames
  exact ⟨hearly, hlate, hfault, hruns.fault_eq.symm, hsession, hrender,
    (hlaidOut requiringEarly).exists_at_end⟩

end Script

end RubyClasses
