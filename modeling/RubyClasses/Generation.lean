import RubyClasses.Classes
import RubyClasses.Source.Session

/-! # Generation

Generation turns a model into one source file. Rendering yields its text; generating persists it
below a directory. Nothing is written when a member is unsupported.
-/

namespace RubyClasses

/-- What a run of the generator works on. -/
structure Generation where
  model : Model
  naming : Naming
  /-- Further files that the source requires. -/
  requires : List String
  deriving Repr

/-- Why a source file is not generated. -/
inductive GenerationFault where
  /-- A member of the model is unsupported. -/
  | member (fault : MemberFault)
  /-- The file cannot be written. -/
  | storage (fileName : String) (fault : DiskFault)
  deriving DecidableEq, Repr

/-- The description of a fault. -/
def GenerationFault.message : GenerationFault → String
  | member fault => fault.message
  | storage _ .nulInPath => DiskFault.nulInPath.message
  | storage fileName (.refused ..) => "Error writing types file \"" ++ fileName ++ "\""

namespace Generation

/-- The path of the source file without its extension. -/
def fileName (g : Generation) : String := g.naming.modulePath ++ "/types"

/-- The source as a buffer. -/
def buffer (g : Generation) : Except MemberFault Buffer := do
  let outline ← Classes.outline g.naming g.model
  return Buffer.emit outline (g.requires.foldl Buffer.require (Buffer.create g.fileName))

/-- The text of the source. -/
def render (g : Generation) : Except MemberFault String := g.buffer.map Buffer.render

/-- The message that announces what is generated. -/
def announcement (g : Generation) : Message :=
  let structs := g.model.declarationOrder.length
  let enumerations := g.model.enumerations.length
  ⟨.debug, .generation, s!"Generating {structs} struct types and {enumerations} enum types"⟩

/-- Generate the source below a directory of a disk. -/
def generate (g : Generation) (directory : String) (disk : Disk) :
    Disk × Journal × Except GenerationFault Path :=
  match g.buffer with
  | .error fault => (disk, [g.announcement], .error (.member fault))
  | .ok b =>
      let (disk, journal, outcome) := b.persist directory disk
      (disk, g.announcement :: journal, outcome.mapError (.storage g.fileName))

end Generation

end RubyClasses
