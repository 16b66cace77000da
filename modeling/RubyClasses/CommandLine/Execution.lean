import RubyClasses.CommandLine.Request
import RubyClasses.CommandLine.Usage
import RubyClasses.Generation
import RubyClasses.Model.Description
import RubyClasses.Storage.Utf8

/-! # Execution of the command line

A run reads the model file, generates the source and reports where it was written. A model file
that cannot be read, a description that describes no model and a file that cannot be written end
the run with an error message; other faults end it without one. The value of a switch is missed
only when it is needed, so other faults can come first.
-/

namespace RubyClasses.CommandLine

/-- What the value of a switch is needed for. -/
inductive Need where
  /-- The directory of the module is derived from its name. -/
  | modulePath
  | require
  /-- The module is opened in the source. -/
  | module
  | outputDirectory
  deriving DecidableEq, Repr

/-- The description of a missing value. -/
def Need.message : Need → String
  | modulePath => "'list' object has no attribute 'lower'"
  | require => "unhashable type: 'list'"
  | module => "'list' object has no attribute 'split'"
  | outputDirectory => "expected str, bytes or os.PathLike object, not list"

/-- Why a run fails. -/
inductive RunFault where
  /-- The model file cannot be read; it is called as the arguments call it. -/
  | unreadable (modelFile : String) (fault : DiskFault)
  /-- The model file is not a text. -/
  | undecodable (fault : DecodeFault)
  | description (fault : ReadFault)
  | generation (fault : GenerationFault)
  /-- A switch has no value where one is needed. -/
  | missingValue (need : Need)
  deriving Repr

namespace RunFault

/-- The error message of a fault, if the run reports it. -/
def report? : RunFault → Option String
  | unreadable modelFile (.refused cause path) =>
      some ("Can't read model file " ++ modelFile ++ ": " ++
        (DiskFault.refused cause path).message)
  | description (.description fault) => some fault.message
  | generation (.storage fileName (.refused cause path)) =>
      some (GenerationFault.storage fileName (.refused cause path)).message
  | _ => none

/-- The description of a fault that the run does not report. -/
def message : RunFault → String
  | unreadable _ fault => fault.message
  | undecodable fault => fault.message
  | description fault => fault.message
  | generation fault => fault.message
  | missingValue need => need.message

end RunFault

/-- How a run ends. -/
inductive Ending where
  /-- The help text was asked for. -/
  | helped (text : String)
  /-- The arguments were refused with a text. -/
  | refused (text : String)
  /-- The source was written to a path. -/
  | generated (path : Path)
  /-- The run failed and reported an error. -/
  | failed (fault : RunFault)
  /-- The run broke off without a report. -/
  | brokeOff (fault : RunFault)
  deriving Repr

/-- The exit status of a run that does not break off. -/
def Ending.status? : Ending → Option Nat
  | helped _ => some 0
  | refused _ => some 2
  | generated _ => some 0
  | failed _ => some 1
  | brokeOff _ => none

/-- What a run leaves: the disk, the journal and its end. -/
structure Execution where
  disk : Disk
  journal : Journal
  ending : Ending

/-- The text that reports success, with the time that the run took in milliseconds. -/
def completion (path : Path) (milliseconds : String) : String :=
  "Generated: " ++ path.toString ++ "\nGeneration completed in " ++ milliseconds ++ " ms\n"

/-- The names that an invocation configures. That the module has no name is noticed here if its
directory is derived from the name, and when the module is opened otherwise. -/
def Invocation.naming (i : Invocation) : Except RunFault Naming :=
  match i.moduleName with
  | some name => .ok (Naming.configure name i.modulePath i.baseClass)
  | none =>
      if i.modulePath = "" then .error (.missingValue .modulePath)
      else .ok (Naming.configure "" i.modulePath i.baseClass)

/-- The files that the source requires besides those of the model. -/
def Invocation.requiredFiles (i : Invocation) : Except RunFault (List String) :=
  i.requires.mapM fun
    | some name => .ok name
    | none => .error (.missingValue .require)

/-- The generation that a model file with some content asks for. -/
def Invocation.generation (i : Invocation) (naming : Naming) (content : ByteArray) :
    Except RunFault Generation := do
  let text ← (Utf8.decode content).mapError .undecodable
  let model ← (Model.ofText text).mapError .description
  return ⟨model, naming, ← i.requiredFiles⟩

/-- The directory to generate into. It is needed once the source is complete, and the name of the
module before. -/
def Invocation.directoryFor (i : Invocation) (g : Generation) : Except RunFault String := do
  if i.moduleName.isNone then throw (.missingValue .module)
  let _ ← g.buffer.mapError fun fault => .generation (.member fault)
  match i.outputDirectory with
  | some directory => return directory
  | none => throw (.missingValue .outputDirectory)

/-- The end of a run that fails, and the error message in the journal if it reports one. -/
def Ending.ofFault (fault : RunFault) : Journal × Ending :=
  match fault.report? with
  | some text => ([⟨.error, .commandLine, text⟩], .failed fault)
  | none => ([], .brokeOff fault)

/-- The messages that a run shows: all of them when it is verbose, else no debug messages. -/
def Invocation.shown (i : Invocation) (journal : Journal) : Journal :=
  journal.filter fun message => i.verbose || message.level != .debug

/-- Read the model file of an invocation and prepare what it asks for. -/
def Invocation.prepare (i : Invocation) (disk : Disk) : Except RunFault Generation := do
  let naming ← i.naming
  let content ← (disk.read (Path.ofText i.modelFile)).mapError (RunFault.unreadable i.modelFile)
  i.generation naming content

/-- Generate what an invocation asks for on a disk. -/
def Invocation.generate (i : Invocation) (g : Generation) (disk : Disk) :
    Disk × Journal × Except RunFault Path :=
  match i.directoryFor g with
  | .error fault => (disk, [g.announcement], .error fault)
  | .ok directory =>
      let (after, journal, outcome) := g.generate directory disk
      (after, journal, outcome.mapError .generation)

/-- Run an invocation on a disk. -/
def Invocation.execute (i : Invocation) (disk : Disk) : Execution :=
  match i.prepare disk with
  | .error fault =>
      let (journal, ending) := Ending.ofFault fault
      ⟨disk, journal, ending⟩
  | .ok g =>
      let (after, journal, outcome) := i.generate g disk
      match outcome with
      | .ok path => ⟨after, i.shown journal, .generated path⟩
      | .error fault =>
          let (report, ending) := Ending.ofFault fault
          ⟨after, i.shown journal ++ report, ending⟩

/-- Run the command line of the program under a name. -/
def execute (program : String) (arguments : List String) (disk : Disk) : Execution :=
  match Request.ofArguments arguments with
  | .error fault => ⟨disk, [], .refused (refusal program fault)⟩
  | .ok .help => ⟨disk, [], .helped (help program)⟩
  | .ok (.generate i) => i.execute disk

end RubyClasses.CommandLine
