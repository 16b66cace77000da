import RubyClasses.Proofs.Outline.Lines
import RubyClasses.Proofs.Source.Requires
import RubyClasses.Source.Script

/-! # Growing sources

Whatever a script does and wherever it fails, each event of its run takes the buffer on from where
the event before it left it: lines are added behind the others and names to those that are required,
the level stays above its floor, and only modules change which modules are open. A line that cannot
be formatted leaves the buffer as it was, and a block whose header it is gets no closer.
-/

namespace RubyClasses

namespace Point

/-- The name of the file that is required at a point. -/
def required? : Point → Option String
  | action (.require name) => some name
  | _ => none

/-- Modules are opened or closed at these points. -/
def isModular : Point → Bool
  | action (.beginModule _) | action (.endModule _) | moduleOpened | moduleClosed => true
  | _ => false

/-- Something is opened or closed by a script of its own at these points. -/
def isBracket : Point → Bool
  | moduleOpened | moduleClosed | blockOpened | blockClosed => true
  | _ => false

/-- The line of a template at the level that its text asks for, unless it cannot be formatted. -/
def lineOf (level : String → Nat) (template : String) (args : List Argument) : List String :=
  match Template.line template args with
  | .error _ => []
  | .ok text => [Buffer.indented (level text) text]

/-- The lines that close modules, each one level further out. -/
def endings : Nat → Nat → List String
  | _, 0 => []
  | level, count + 1 => Buffer.indented (level - 1) "end" :: endings (level - 1) count

/-- Lines are written at a point, behind those of a buffer. When more modules are closed than are
open, one line is written for the one that is missing first. -/
def Writes (b : Buffer) (written : List String) : Point → Prop
  | action (.write template args) => written = lineOf (fun _ => b.level) template args
  | action (.addLine template args) =>
      written = lineOf (fun text => b.level - if Line.closes text then 1 else 0) template args
  | action (.beginModule name) => written = Outline.openings b.level (Text.moduleParts name)
  | action (.endModule name) =>
      written = endings b.level (min (Text.moduleParts name).length (b.modules.length + 1))
  | moduleOpened => ∃ name, written = Outline.openings b.level (Text.moduleParts name)
  | moduleClosed => ∃ count, written = endings b.level count
  | blockOpened => ∃ header, written = [Buffer.indented b.level header]
  | blockClosed => ∃ closer, written = [Buffer.indented (b.level - 1) closer]
  | _ => written = []

/-- The level behind a point where a number of lines is written. Each line that opens something
leads one level in; each line that closes something leads one level out, but not below zero. -/
def levelFrom (level count : Int) : Point → Int
  | action (.addLine template args) =>
      match Template.line template args with
      | .error _ => level
      | .ok text =>
          max 0 (level - if Line.closes text then 1 else 0) + if Line.opens text then 1 else 0
  | action (.beginModule _) | moduleOpened | blockOpened => level + count
  | action (.endModule _) | moduleClosed | blockClosed => max 0 (level - count)
  | _ => level

end Point

namespace Event

/-- A line was to be written at an event, but its arguments do not fit its template. A block is
refused when that is the case for its header. -/
def Misformats (e : Event) (fault : TemplateFault) : Prop :=
  match e.point with
  | .action (.write template args) | .action (.addLine template args) =>
      Template.line template args = .error fault
  | .blockRefused => e.fault = some (.template fault)
  | _ => False

/-- What an event does to the buffer before it. -/
structure Follows (e : Event) (before : Buffer) : Prop where
  exists_written : ∃ written, e.point.Writes before written ∧
    e.buffer.lines = before.lines ++ written ∧
    (e.buffer.level : Int) = e.point.levelFrom before.level written.length
  requires_eq : e.buffer.requires =
    e.point.required?.elim before.requires fun name => Buffer.insertAscending name before.requires
  modules_eq : e.point.isModular = false → e.buffer.modules = before.modules
  /-- Nothing has happened to the buffer when a line turns out not to be formatted. -/
  misformatted : ∀ fault, e.Misformats fault →
    e.fault = some (.template fault) ∧ e.buffer = before

end Event

/-- Events follow each other from a buffer to another one. -/
inductive Traced : Buffer → List Event → Buffer → Prop
  | nil {b : Buffer} : Traced b [] b
  | cons {b final : Buffer} {e : Event} {events : List Event} : e.Follows b →
      Traced e.buffer events final → Traced b (e :: events) final

/-- Every module and block that is opened is closed behind what stands inside of it, and nothing
else is closed. -/
inductive Enclosed : List Event → Prop
  | nil : Enclosed []
  | event {e : Event} {events : List Event} : e.point.isBracket = false → Enclosed events →
      Enclosed (e :: events)
  | module {opening closing : Event} {inner events : List Event} :
      opening.point = .moduleOpened → Enclosed inner → closing.point = .moduleClosed →
      Enclosed events → Enclosed (opening :: (inner ++ closing :: events))
  | block {opening closing : Event} {inner events : List Event} :
      opening.point = .blockOpened → Enclosed inner → closing.point = .blockClosed →
      Enclosed events → Enclosed (opening :: (inner ++ closing :: events))

/-- Events that follow one another can be told in two parts. -/
theorem Traced.append {b middle final : Buffer} {first second : List Event}
    (hfirst : Traced b first middle) (hsecond : Traced middle second final) :
    Traced b (first ++ second) final := by
  induction hfirst with
  | nil => exact hsecond
  | cons hstep _ ih => exact .cons hstep (ih hsecond)

theorem Enclosed.append {first second : List Event} (hfirst : Enclosed first)
    (hsecond : Enclosed second) : Enclosed (first ++ second) := by
  induction hfirst with
  | nil => exact hsecond
  | event hpoint _ ih => exact .event hpoint ih
  | module hopening hinner hclosing _ _ ih =>
      rw [List.cons_append, List.append_assoc, List.cons_append]
      exact .module hopening hinner hclosing ih
  | block hopening hinner hclosing _ _ ih =>
      rw [List.cons_append, List.append_assoc, List.cons_append]
      exact .block hopening hinner hclosing ih

/-- One line is written for each part of a module name. -/
theorem Outline.length_openings (level : Nat) (parts : List String) :
    (openings level parts).length = parts.length := by
  induction parts generalizing level with
  | nil => rfl
  | cons part parts ih => rw [openings, List.length_cons, ih, List.length_cons]

namespace Buffer

/-- How a buffer changes when lines are written and the level follows them. -/
structure Shifts (b after : Buffer) (written : List String) (level : Int → Int) : Prop where
  lines_eq : after.lines = b.lines ++ written
  level_eq : (after.level : Int) = level written.length
  requires_eq : after.requires = b.requires

theorem openBlock_shifts (b : Buffer) (header : String) :
    b.Shifts (b.openBlock header) [indented b.level header] fun count => b.level + count :=
  ⟨lines_write b header, rfl, rfl⟩

/-- Closing a block lowers the level, which has a floor, and writes the closer there. -/
theorem closeBlock_shifts (b : Buffer) (closer : String) :
    b.Shifts (b.closeBlock closer) [indented (b.level - 1) closer]
      fun count => max 0 (b.level - count) := by
  refine ⟨lines_write b.dedent closer, ?_, rfl⟩
  simp only [closeBlock, write, dedent, List.length_singleton]
  omega

/-- A line that is added by its look takes a step out before it is written and one in behind it. -/
theorem addLine_shifts (b : Buffer) (text : String) :
    b.Shifts (b.addLine text) [indented (b.level - if Line.closes text then 1 else 0) text]
      fun _ => max 0 ((b.level : Int) - if Line.closes text then 1 else 0) +
        if Line.opens text then 1 else 0 := by
  have hout : ((b.level - 1 : Nat) : Int) = max 0 ((b.level : Int) - 1) := by omega
  cases hcloses : Line.closes text <;> cases hopens : Line.opens text <;>
    refine ⟨?_, ?_, ?_⟩ <;>
    simp [addLine, dedent, indent, write, lines, hcloses, hopens, hout]

/-- Opening the modules of a name writes a line for each and raises the level by as many. -/
theorem beginModule_shifts (b : Buffer) (name : String) :
    b.Shifts (b.beginModule name) (Outline.openings b.level (Text.moduleParts name))
      fun count => b.level + count := by
  rw [beginModule, foldl_openModule]
  refine ⟨lines_grown b _, ?_, rfl⟩
  rw [Outline.length_openings]
  rfl

/-- Closing modules writes a line for each that is open, and one more where one is missing. -/
theorem closeModules_shifts (count : Nat) (b : Buffer) :
    b.Shifts (closeModules count b).1 (Point.endings b.level (min count (b.modules.length + 1)))
      fun count => max 0 (b.level - count) := by
  induction count generalizing b with
  | zero =>
      rw [Nat.zero_min]
      exact ⟨(List.append_nil _).symm, by simp [closeModules, Point.endings], rfl⟩
  | succ count ih =>
      have hclosed := b.closeBlock_shifts "end"
      have hmodules : (b.closeBlock "end").modules = b.modules := rfl
      rw [Nat.succ_min_succ, Point.endings]
      unfold closeModules
      dsimp only
      split
      next hnone =>
        -- the line for the missing module has been written when it turns out to be missing
        rw [← hmodules, hnone, List.length_nil, Nat.min_zero]
        exact hclosed
      next hsome =>
        let c := { b.closeBlock "end" with modules := b.modules.dropLast }
        have hlength : b.modules.length = c.modules.length + 1 := by
          rw [List.length_dropLast]
          exact (Nat.succ_pred_eq_of_pos (List.length_pos_iff.mpr hsome)).symm
        rw [hlength]
        obtain ⟨hlines, hlevel, hrequires⟩ := ih c
        have hc : c.level = b.level - 1 := rfl
        refine ⟨?_, ?_, hrequires.trans hclosed.requires_eq⟩
        · rw [List.append_cons, ← hclosed.lines_eq]
          exact hlines
        · refine hlevel.trans ?_
          rw [hc, List.length_cons]
          omega

theorem endModule_shifts (b : Buffer) (name : String) :
    b.Shifts (b.endModule name).1
      (Point.endings b.level (min (Text.moduleParts name).length (b.modules.length + 1)))
      fun count => max 0 (b.level - count) :=
  closeModules_shifts _ b

end Buffer

namespace Event.Follows

variable {b : Buffer} {e : Event}

/-- An event at which nothing happens to the buffer. -/
theorem still (hwrites : e.point.Writes b []) (hlevel : ∀ level, e.point.levelFrom level 0 = level)
    (hrequired : e.point.required? = none)
    (hmisformats : ∀ fault, e.Misformats fault → e.fault = some (.template fault))
    (hbuffer : e.buffer = b) : e.Follows b := by
  subst hbuffer
  refine ⟨⟨[], hwrites, (List.append_nil _).symm, (hlevel _).symm⟩, ?_, fun _ => rfl, ?_⟩
  · rw [hrequired]
    rfl
  · intro fault h
    exact ⟨hmisformats fault h, rfl⟩

/-- An event follows a buffer that shifts as the point of the event asks for. -/
theorem of_shifts {written : List String} {level : Int → Int}
    (h : b.Shifts e.buffer written level) (hwrites : e.point.Writes b written)
    (hlevel : ∀ count, e.point.levelFrom b.level count = level count)
    (hrequired : e.point.required? = none)
    (hmodules : e.point.isModular = false → e.buffer.modules = b.modules)
    (hmisformats : ∀ fault, ¬ e.Misformats fault) : e.Follows b := by
  obtain ⟨hlines, hafter, hrequires⟩ := h
  refine ⟨⟨written, hwrites, hlines, ?_⟩, ?_, hmodules, fun fault h => absurd h (hmisformats fault)⟩
  · rw [hafter, hlevel]
  · rw [hrequires, hrequired]
    rfl

end Event.Follows

namespace Action

variable (action : Action) (s : Session) (outcome : Except ScriptFault (Option String))

theorem event_point : (action.event s outcome).point = .action action := by cases outcome <;> rfl

theorem event_buffer : (action.event s outcome).buffer = s.buffer := by cases outcome <;> rfl

/-- Every action adds to the buffer, if it does anything to it. -/
theorem event_follows :
    (action.event (action.perform s).1 (action.perform s).2).Follows s.buffer := by
  cases action with
  | write template args =>
      simp only [perform]
      cases hline : Template.line template args with
      | error fault =>
          refine .still ?_ (fun _ => rfl) rfl (fun other h => by cases hline.symm.trans h; rfl) rfl
          simp [event, Point.Writes, Point.lineOf, hline]
      | ok text =>
          have hwritten : [Buffer.indented s.buffer.level text] =
              Point.lineOf (fun _ => s.buffer.level) template args := by
            simp [Point.lineOf, hline]
          refine ⟨⟨_, hwritten, s.buffer.lines_write text, rfl⟩, rfl, fun _ => rfl, ?_⟩
          intro fault h
          cases hline.symm.trans h
  | addLine template args =>
      simp only [perform]
      cases hline : Template.line template args with
      | error fault =>
          refine .still ?_ (fun level => ?_) rfl
            (fun other h => by cases hline.symm.trans h; rfl) rfl
          · simp [event, Point.Writes, Point.lineOf, hline]
          · simp [event, Point.levelFrom, hline]
      | ok text =>
          refine .of_shifts (s.buffer.addLine_shifts text) ?_ (fun _ => ?_) rfl (fun _ => ?_) ?_
          · simp [event, Point.Writes, Point.lineOf, hline]
          · simp only [event, Point.levelFrom, hline]
          · simp only [event, onBuffer, Buffer.addLine]
            split <;> split <;> rfl
          · intro fault h
            cases hline.symm.trans h
  | require name =>
      exact ⟨⟨[], rfl, (List.append_nil _).symm, rfl⟩, rfl, fun _ => rfl, fun _ h => h.elim⟩
  | beginModule name =>
      exact .of_shifts (s.buffer.beginModule_shifts name) rfl (fun _ => rfl) rfl
        (fun h => by cases h) (fun _ h => h)
  | endModule name =>
      have hclosed := s.buffer.endModule_shifts name
      simp only [perform]
      split <;>
        exact .of_shifts hclosed rfl (fun _ => rfl) rfl (fun h => by cases h) (fun _ h => h)
  | fail message => exact .still rfl (fun _ => rfl) rfl (fun _ h => h.elim) rfl
  | render => exact .still rfl (fun _ => rfl) rfl (fun _ h => h.elim) rfl
  | display => exact .still rfl (fun _ => rfl) rfl (fun _ h => h.elim) rfl
  | filePath directory => exact .still rfl (fun _ => rfl) rfl (fun _ h => h.elim) rfl
  | persist directory =>
      simp only [perform]
      split <;> exact .still rfl (fun _ => rfl) rfl (fun _ h => h.elim) rfl

end Action

/-- The events of a run lead from a buffer to the one at its end, and close what they open. -/
structure Run.Unfolds (start : Buffer) (r : Run) : Prop where
  traced : Traced start r.events r.session.buffer
  enclosed : Enclosed r.events

namespace Run.Unfolds

variable {start : Buffer} {r : Run}

theorem andThen {next : Session → Run} (h : r.Unfolds start)
    (hnext : ∀ s, (next s).Unfolds s.buffer) : (Script.andThen r next).Unfolds start := by
  unfold Script.andThen
  split
  next => exact h
  next =>
    obtain ⟨htraced, henclosed⟩ := hnext r.session
    exact ⟨h.traced.append htraced, h.enclosed.append henclosed⟩

/-- A body between a point at which something is opened and one at which it is closed. -/
theorem within {opening closing : Point} {s : Session} {body : Session → Run} {after : Buffer}
    {fault : Option ScriptFault} (h : (body s).Unfolds s.buffer)
    (hopening : Event.Follows ⟨opening, s.buffer, none, none⟩ start)
    (hclosing : ∀ fault, Event.Follows ⟨closing, after, none, fault⟩ (body s).session.buffer)
    (henclosed : ∀ {first last : Event} {inner : List Event}, first.point = opening →
      Enclosed inner → last.point = closing → Enclosed (first :: (inner ++ [last]))) :
    (Script.closed closing (body s).session (Script.andThen (Script.opened opening s) body) after
      fault).Unfolds start where
  traced := .cons hopening (h.traced.append (.cons (hclosing _) .nil))
  enclosed := henclosed rfl h.enclosed rfl

end Run.Unfolds

/-- The run of an action alone. -/
def Action.performed (action : Action) (s : Session) : Run :=
  let event := action.event (action.perform s).1 (action.perform s).2
  ⟨(action.perform s).1, [event], event.fault⟩

/-- An action is one event, which opens and closes nothing of its own. -/
theorem Action.performed_unfolds (action : Action) (s : Session) :
    (action.performed s).Unfolds s.buffer where
  traced := .cons (action.event_follows s) (action.event_buffer _ _ ▸ .nil)
  enclosed := by
    refine .event ?_ .nil
    rw [event_point]
    rfl

/-- Whatever a script does, its events follow each other. -/
theorem Script.run_unfolds (script : Script) (s : Session) : (script.run s).Unfolds s.buffer := by
  induction script generalizing s with
  | done => exact ⟨.nil, .nil⟩
  | act action next ih => exact (action.performed_unfolds s).andThen ih
  | module name body next ihBody ih =>
      let start := Action.onBuffer s (s.buffer.beginModule name)
      let inner := (body.run start).session.buffer
      have hopening : Event.Follows ⟨.moduleOpened, start.buffer, none, none⟩ s.buffer :=
        .of_shifts (s.buffer.beginModule_shifts name) ⟨_, rfl⟩ (fun _ => rfl) rfl
          (fun h => by cases h) (fun _ h => h)
      have hclosing : ∀ fault,
          Event.Follows ⟨.moduleClosed, (inner.endModule name).1, none, fault⟩ inner := fun _ =>
        .of_shifts (inner.endModule_shifts name) ⟨_, rfl⟩ (fun _ => rfl) rfl
          (fun h => by cases h) (fun _ h => h)
      exact ((ihBody start).within hopening hclosing
        fun hfirst hinner hlast => .module hfirst hinner hlast .nil).andThen ih
  | block header args closer body next ihBody ih =>
      simp only [run]
      cases Template.line header args with
      | error fault =>
          have hrefused : Event.Follows
              ⟨.blockRefused, s.buffer, none, some (.template fault)⟩ s.buffer :=
            .still rfl (fun _ => rfl) rfl (fun _ h => h) rfl
          exact ⟨.cons hrefused .nil, .event rfl .nil⟩
      | ok text =>
          let start := Action.onBuffer s (s.buffer.openBlock text)
          let inner := (body.run start).session.buffer
          have hopening : Event.Follows ⟨.blockOpened, start.buffer, none, none⟩ s.buffer :=
            .of_shifts (s.buffer.openBlock_shifts text) ⟨_, rfl⟩ (fun _ => rfl) rfl
              (fun _ => rfl) (fun _ h => h)
          have hclosing : ∀ fault,
              Event.Follows ⟨.blockClosed, inner.closeBlock closer, none, fault⟩ inner := fun _ =>
            .of_shifts (inner.closeBlock_shifts closer) ⟨_, rfl⟩ (fun _ => rfl) rfl
              (fun _ => rfl) (fun _ h => h)
          exact ((ihBody start).within hopening hclosing
            fun hfirst hinner hlast => .block hfirst hinner hlast .nil).andThen ih

/-- A buffer holds all that an earlier one held, the lines in their places. -/
structure Buffer.Grows (earlier later : Buffer) : Prop where
  lines_prefix : earlier.lines <+: later.lines
  requires_subset : earlier.requires ⊆ later.requires

namespace Buffer.Grows

variable {a b c : Buffer}

theorem refl (b : Buffer) : b.Grows b := ⟨List.prefix_rfl, List.Subset.refl _⟩

theorem trans (hab : a.Grows b) (hbc : b.Grows c) : a.Grows c :=
  ⟨hab.lines_prefix.trans hbc.lines_prefix,
    List.Subset.trans hab.requires_subset hbc.requires_subset⟩

end Buffer.Grows

/-- An event that follows a buffer takes nothing away from it. -/
theorem Event.Follows.grows {b : Buffer} {e : Event} (h : e.Follows b) : b.Grows e.buffer := by
  obtain ⟨written, -, hlines, -⟩ := h.exists_written
  refine ⟨⟨written, hlines.symm⟩, ?_⟩
  rw [h.requires_eq]
  cases e.point.required? with
  | none => exact List.Subset.refl _
  | some name =>
      intro other hother
      exact Buffer.mem_insertAscending.mpr (.inr hother)

/-- The buffers of a run in order: where it started, behind each of its events and at its end. -/
def Run.buffers (start : Buffer) (r : Run) : List Buffer :=
  start :: (r.events.map Event.buffer ++ [r.session.buffer])

/-- Of the buffers along a trace, each one grows out of all before it. -/
theorem Traced.pairwise_grows {b final : Buffer} {events : List Event}
    (h : Traced b events final) :
    (b :: (events.map Event.buffer ++ [final])).Pairwise Buffer.Grows := by
  induction h with
  | @nil b => simpa using Buffer.Grows.refl b
  | @cons b final e events hstep _ ih =>
      have hlater := (List.pairwise_cons.mp ih).1
      refine List.pairwise_cons.mpr ⟨?_, ih⟩
      intro later hmem
      rcases List.mem_cons.mp hmem with rfl | hmem
      · exact hstep.grows
      · exact hstep.grows.trans (hlater later hmem)

/-- A run takes nothing back that is in its buffer. -/
structure Run.OnlyAppends (start : Buffer) (r : Run) : Prop where
  /-- Each buffer holds the lines and the names of all buffers before it. -/
  grows : (r.buffers start).Pairwise Buffer.Grows
  /-- Each event follows the buffer before it: the level stays above its floor, the open modules
  change at modular points only, and what cannot be formatted leaves everything as it was. -/
  traced : Traced start r.events r.session.buffer
  /-- What is refused is not closed. -/
  enclosed : Enclosed r.events

/-- On every buffer, scripts only append, also when they fail. -/
theorem Script.run_onlyAppends (script : Script) (s : Session) :
    (script.run s).OnlyAppends s.buffer := by
  obtain ⟨htraced, henclosed⟩ := script.run_unfolds s
  exact ⟨htraced.pairwise_grows, htraced, henclosed⟩

end RubyClasses
