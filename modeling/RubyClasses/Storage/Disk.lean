import RubyClasses.Storage.Path
import RubyClasses.Text.Quoted

/-! # Disks

A disk holds folders and files, and one of its folders is the working directory, where relative
paths start. A path is followed part by part: every part but the last has to be a folder. An
operation that fails leaves all files as they are.
-/

namespace RubyClasses

/-- Why an operation on a disk fails. -/
inductive DiskCause where
  | notFound
  | occupied
  | notFolder
  | isFolder
  | nameTooLong
  deriving DecidableEq, Repr

/-- The number of a cause in messages. -/
def DiskCause.number : DiskCause → Nat
  | notFound => 2
  | occupied => 17
  | notFolder => 20
  | isFolder => 21
  | nameTooLong => 36

/-- The words for a cause in messages. -/
def DiskCause.words : DiskCause → String
  | notFound => "No such file or directory"
  | occupied => "File exists"
  | notFolder => "Not a directory"
  | isFolder => "Is a directory"
  | nameTooLong => "File name too long"

/-- A failed operation. -/
inductive DiskFault where
  /-- The disk refuses to operate on a path. -/
  | refused (cause : DiskCause) (path : String)
  /-- A path contains a NUL character, which no path can. -/
  | nulInPath
  deriving DecidableEq, Repr

/-- The description of a failed operation. -/
def DiskFault.message : DiskFault → String
  | refused cause path =>
      s!"[Errno {cause.number}] " ++ cause.words ++ ": " ++ Text.quoteString path
  | nulInPath => "embedded null byte"

/-- What a disk holds at a place. -/
inductive Entry where
  | folder
  | file (content : ByteArray)

/-- A disk: its entries by their places. A place is the parts of the path that leads there from the
root. -/
structure Disk where
  /-- The place of the working directory. -/
  workingDirectory : List String
  entries : List (List String × Entry)

namespace Disk

/-- The disk that holds the working directory and the folders around it only. -/
def empty (workingDirectory : List String) : Disk := ⟨workingDirectory, []⟩

/-- The entry at a place. The working directory and what it lies in are folders. -/
def entry? (d : Disk) (place : List String) : Option Entry :=
  if place.isPrefixOf d.workingDirectory then some .folder else d.entries.lookup place

/-- Put an entry at a place that holds none yet, or in the stead of the one it holds. -/
def put (d : Disk) (place : List String) (entry : Entry) : Disk :=
  let rec replace : List (List String × Entry) → List (List String × Entry)
    | [] => [(place, entry)]
    | (p, e) :: rest => if p = place then (p, entry) :: rest else (p, e) :: replace rest
  { d with entries := replace d.entries }

/-- The greatest length of a part of a path, in bytes. -/
def partLimit : Nat := 255

/-- The greatest length of a path, in bytes. -/
def pathLimit : Nat := 4095

/-- Follow parts from a place. Double dots lead back, and from the root to the root. -/
def follow (d : Disk) (place : List String) : List String → Except DiskCause (List String)
  | [] => .ok place
  | part :: rest =>
      match d.entry? place with
      | none => .error .notFound
      | some (.file _) => .error .notFolder
      | some .folder =>
          if partLimit < part.utf8ByteSize then .error .nameTooLong
          else follow d (if part = ".." then place.dropLast else place ++ [part]) rest

/-- The place that a path leads to. The place itself may be empty. -/
def locate (d : Disk) (p : Path) : Except DiskFault (List String) :=
  let text := p.toString
  if '\x00' ∈ text.toList then .error .nulInPath
  else if pathLimit < text.utf8ByteSize then .error (.refused .nameTooLong text)
  else
    let start := if p.root = "" then d.workingDirectory else []
    (d.follow start p.parts).mapError fun cause => .refused cause text

/-- Whether a path leads to a folder. -/
def isFolder (d : Disk) (p : Path) : Bool :=
  match d.locate p with
  | .ok place =>
      match d.entry? place with
      | some .folder => true
      | _ => false
  | .error _ => false

/-- Read a file. -/
def read (d : Disk) (p : Path) : Except DiskFault ByteArray := do
  let place ← d.locate p
  match d.entry? place with
  | none => throw (.refused .notFound p.toString)
  | some .folder => throw (.refused .isFolder p.toString)
  | some (.file content) => return content

/-- Write a file, which is created or replaced. -/
def write (d : Disk) (p : Path) (content : ByteArray) : Except DiskFault Disk := do
  let place ← d.locate p
  match d.entry? place with
  | some .folder => throw (.refused .isFolder p.toString)
  | _ => return d.put place (.file content)

/-- Create a folder in an existing one. -/
def makeFolder (d : Disk) (p : Path) : Except DiskFault Disk := do
  let place ← d.locate p
  match d.entry? place with
  | some _ => throw (.refused .occupied p.toString)
  | none => return d.put place .folder

/-- Create a folder unless it exists, in a folder that exists. -/
def ensureFolder (d : Disk) (p : Path) : Except DiskFault Disk :=
  match d.makeFolder p with
  | .ok made => .ok made
  | .error fault => if d.isFolder p then .ok d else .error fault

/-- Create a folder and the folders above it unless they exist. The first argument counts the
parts of the path. Folders that were made remain when the last one cannot be made. -/
def ensureFolders : Nat → Disk → Path → Disk × Option DiskFault
  | depth, d, p =>
      match d.makeFolder p, depth with
      | .ok made, _ => (made, none)
      | .error (.refused .notFound _), depth + 1 =>
          match ensureFolders depth d p.parent with
          | (above, some fault) => (above, some fault)
          | (above, none) =>
              match above.ensureFolder p with
              | .ok made => (made, none)
              | .error fault => (above, some fault)
      | .error fault, _ => (d, if d.isFolder p then none else some fault)

/-- Create a folder and the folders above it unless they exist. -/
def makeFolders (d : Disk) (p : Path) : Disk × Option DiskFault :=
  ensureFolders p.parts.length d p

/-- The files below the working directory, by the parts that lead to them from there. -/
def files (d : Disk) : List (List String × ByteArray) :=
  d.entries.filterMap fun
    | (place, .file content) =>
        if d.workingDirectory.isPrefixOf place then
          some (place.drop d.workingDirectory.length, content)
        else none
    | _ => none

end Disk

end RubyClasses
