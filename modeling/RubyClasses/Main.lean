import RubyClasses.CommandLine.Execution

/-! # The program

The command line on the real disk. All decisions are made elsewhere; this module reads the model
file, writes the source and shows the messages of the run.
-/

namespace RubyClasses.CommandLine

/-- The name of the program in its usage lines. -/
def programName : String := "ruby-classes"

/-- The cause that an error number stands for. -/
def causeOf (number : Nat) : DiskCause :=
  ([.notFound, .occupied, .notFolder, .isFolder, .nameTooLong].find? fun (c : DiskCause) =>
    c.number == number).getD .notFound

/-- The number of an error of the operating system. -/
def errorNumber : IO.Error → Nat
  | .alreadyExists _ code _ => code.toNat
  | .inappropriateType _ code _ => code.toNat
  | .invalidArgument _ code _ => code.toNat
  | _ => DiskCause.notFound.number

/-- Operate on a path of the real disk. -/
def onDisk {α : Type} (path : Path) (operation : IO α) : IO (Except DiskFault α) := do
  try
    return .ok (← operation)
  catch e =>
    return .error (.refused (causeOf (errorNumber e)) path.toString)

/-- Show a message of a run. -/
def showMessage (message : Message) : IO Unit := do
  let level :=
    match message.level with
    | .debug => "DEBUG"
    | .info => "INFO"
    | .error => "ERROR"
  IO.eprintln (level ++ ": " ++ message.text)

/-- Show how a run fails and return its exit status. -/
def showFault (fault : RunFault) : IO UInt32 := do
  match Ending.ofFault fault with
  | (journal, .brokeOff _) => do
      journal.forM showMessage
      IO.eprintln fault.message
  | (journal, _) => journal.forM showMessage
  return 1

/-- A time in nanoseconds as milliseconds with two places. -/
def milliseconds (nanoseconds : Nat) : String :=
  let hundredths := Number.roundDiv nanoseconds 10000
  let places := hundredths % 100
  s!"{hundredths / 100}." ++ (if places < 10 then "0" else "") ++ toString places

/-- Write a buffer below a directory of the real disk. -/
def persistOnDisk (b : Buffer) (directory : String) : IO (Except DiskFault Path) := do
  let path := b.filePath directory
  match ← onDisk path.parent (IO.FS.createDirAll path.parent.toString) with
  | .error fault => return .error fault
  | .ok _ =>
      let workingDirectory := Path.ofText (← IO.currentDir).toString
      let shown := (path.absolute workingDirectory.parts).toString
      showMessage ⟨.info, .persistence, "Writing file \"" ++ shown ++ "\"."⟩
      match ← onDisk path (IO.FS.writeFile path.toString b.render) with
      | .error fault => return .error fault
      | .ok _ => return .ok path

/-- Generate what an invocation asks for on the real disk. -/
def generateOnDisk (i : Invocation) (g : Generation) : IO (Except RunFault Path) := do
  if i.verbose then showMessage g.announcement
  match i.directoryFor g, g.buffer with
  | .error fault, _ => return .error fault
  | _, .error fault => return .error (.generation (.member fault))
  | .ok directory, .ok b =>
      return (← persistOnDisk b directory).mapError fun fault =>
        .generation (.storage g.fileName fault)

/-- Run an invocation on the real disk. -/
def runInvocation (start : Nat) (i : Invocation) : IO UInt32 := do
  match i.naming with
  | .error fault => showFault fault
  | .ok naming =>
      let modelFile := Path.ofText i.modelFile
      let content ← onDisk modelFile (IO.FS.readBinFile modelFile.toString)
      match content.mapError (RunFault.unreadable i.modelFile) >>= i.generation naming with
      | .error fault => showFault fault
      | .ok g =>
          match ← generateOnDisk i g with
          | .error fault => showFault fault
          | .ok path =>
              IO.print (completion path (milliseconds ((← IO.monoNanosNow) - start)))
              return 0

end RubyClasses.CommandLine

open RubyClasses.CommandLine in
/-- Run the command line. -/
def main (arguments : List String) : IO UInt32 := do
  let start ← IO.monoNanosNow
  match Request.ofArguments arguments with
  | .error fault => do
      IO.eprint (refusal programName fault)
      return 2
  | .ok .help => do
      IO.print (help programName)
      return 0
  | .ok (.generate i) => runInvocation start i
