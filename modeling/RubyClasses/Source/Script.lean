import RubyClasses.Source.Session

/-! # Scripts

A script says how to fill a buffer: actions on it, modules and blocks with scripts of their own,
and what comes after them. A fault ends the script and all scripts around it, but every module and
block that was opened is closed on the way out. Running a script keeps the events that happened.
-/

namespace RubyClasses

/-- An action on a session. -/
inductive Action where
  /-- Write a line at the current level. -/
  | write (template : String) (args : List Argument)
  /-- Write a line at the level that its look asks for. -/
  | addLine (template : String) (args : List Argument)
  | require (name : String)
  | beginModule (name : String)
  | endModule (name : String)
  /-- Fail with a message. -/
  | fail (message : String)
  /-- Look at the complete source. -/
  | render
  /-- Look at the buffer as a string, which is its complete source. -/
  | display
  /-- Look at the path of the file below a directory. -/
  | filePath (directory : String)
  /-- Write the file below a directory. -/
  | persist (directory : String)
  deriving Repr

/-- Actions in sequence, with modules and blocks around some of them. -/
inductive Script where
  | done
  | act (action : Action) (next : Script)
  | module (name : String) (body next : Script)
  | block (header : String) (args : List Argument) (closer : String) (body next : Script)
  deriving Repr, Inhabited

/-- Why a script fails. -/
inductive ScriptFault where
  | template (fault : TemplateFault)
  /-- The script asked to fail. -/
  | raised (message : String)
  /-- More modules were closed than opened. -/
  | noOpenModule
  | disk (fault : DiskFault)
  deriving DecidableEq, Repr

/-- The description of a fault. -/
def ScriptFault.message : ScriptFault → String
  | template fault => fault.message
  | raised text => text
  | noOpenModule => "pop from empty list"
  | disk fault => fault.message

/-- Where in a script an event happens. -/
inductive Point where
  | action (a : Action)
  | moduleOpened
  | moduleClosed
  | blockOpened
  /-- The header of a block could not be written, so the block was not opened. -/
  | blockRefused
  | blockClosed
  deriving Repr

/-- An event of a run: what happened, the buffer after it, and what it showed or how it failed. -/
structure Event where
  point : Point
  buffer : Buffer
  shown : Option String
  fault : Option ScriptFault

/-- The end of a run: the session, the events on the way and the fault that ended it, if any. -/
structure Run where
  session : Session
  events : List Event
  fault : Option ScriptFault

namespace Action

/-- Change the buffer of a session. -/
def onBuffer (s : Session) (b : Buffer) : Session := { s with buffer := b }

/-- Perform an action: the session after it, and what it shows or how it fails. -/
def perform (s : Session) : Action → Session × Except ScriptFault (Option String)
  | write template args =>
      match Template.line template args with
      | .error fault => (s, .error (.template fault))
      | .ok line => (onBuffer s (s.buffer.write line), .ok none)
  | addLine template args =>
      match Template.line template args with
      | .error fault => (s, .error (.template fault))
      | .ok line => (onBuffer s (s.buffer.addLine line), .ok none)
  | require name => (onBuffer s (s.buffer.require name), .ok none)
  | beginModule name => (onBuffer s (s.buffer.beginModule name), .ok none)
  | endModule name =>
      let (b, wereOpen) := s.buffer.endModule name
      (onBuffer s b, if wereOpen then .ok none else .error .noOpenModule)
  | fail message => (s, .error (.raised message))
  | render => (s, .ok (some s.buffer.render))
  | display => (s, .ok (some (toString s.buffer)))
  | filePath directory => (s, .ok (some (s.buffer.filePath directory).toString))
  | persist directory =>
      match s.buffer.persist directory s.disk with
      | (disk, journal, outcome) =>
          let s := { s with disk := disk, journal := s.journal ++ journal }
          match outcome with
          | .error fault => (s, .error (.disk fault))
          | .ok path => (s, .ok (some path.toString))

/-- The event of an action with its outcome. -/
def event (a : Action) (s : Session) (outcome : Except ScriptFault (Option String)) : Event :=
  match outcome with
  | .ok shown => ⟨.action a, s.buffer, shown, none⟩
  | .error fault => ⟨.action a, s.buffer, none, some fault⟩

end Action

namespace Script

/-- Go on with a script unless a fault ended the run. -/
def andThen (r : Run) (next : Session → Run) : Run :=
  match r.fault with
  | some _ => r
  | none =>
      let after := next r.session
      { after with events := r.events ++ after.events }

/-- The start of a run at which a module or block was opened. -/
def opened (point : Point) (s : Session) : Run := ⟨s, [⟨point, s.buffer, none, none⟩], none⟩

/-- Close what was opened, at the end of the run of its body. A fault while closing takes the
place of the one that ended the body. -/
def closed (point : Point) (s : Session) (r : Run) (b : Buffer) (fault : Option ScriptFault) :
    Run :=
  let fault := fault.or r.fault
  ⟨{ s with buffer := b }, r.events ++ [⟨point, b, none, fault⟩], fault⟩

/-- Run a script. -/
def run : Script → Session → Run
  | done, s => ⟨s, [], none⟩
  | act action next, s =>
      let (after, outcome) := action.perform s
      let event := action.event after outcome
      andThen ⟨after, [event], event.fault⟩ (run next)
  | module name body next, s =>
      let inside := andThen
        (opened .moduleOpened (Action.onBuffer s (s.buffer.beginModule name))) (run body)
      let (b, wereOpen) := inside.session.buffer.endModule name
      let fault := if wereOpen then none else some .noOpenModule
      andThen (closed .moduleClosed inside.session inside b fault) (run next)
  | block header args closer body next, s =>
      match Template.line header args with
      | .error fault =>
          ⟨s, [⟨.blockRefused, s.buffer, none, some (.template fault)⟩], some (.template fault)⟩
      | .ok line =>
          let inside := andThen
            (opened .blockOpened (Action.onBuffer s (s.buffer.openBlock line))) (run body)
          let b := inside.session.buffer.closeBlock closer
          andThen (closed .blockClosed inside.session inside b none) (run next)

end Script

end RubyClasses
