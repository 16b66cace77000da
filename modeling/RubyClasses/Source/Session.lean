import RubyClasses.Source.Buffer
import RubyClasses.Source.Journal
import RubyClasses.Storage.Disk

/-! # Persisting sources

A session is a buffer together with the disk that it can be written to and the journal of what was
written. Writing announces the file in the journal once its directory exists.
-/

namespace RubyClasses

/-- Persist a buffer below a directory of a disk: create the directory, announce the file, write
it. The path of the file is the result. -/
def Buffer.persist (b : Buffer) (directory : String) (disk : Disk) :
    Disk × Journal × Except DiskFault Path :=
  let path := b.filePath directory
  match disk.makeFolders path.parent with
  | (disk, some fault) => (disk, [], .error fault)
  | (disk, none) =>
      let shown := (path.absolute disk.workingDirectory).toString
      let journal := [⟨.info, .persistence, "Writing file \"" ++ shown ++ "\"."⟩]
      match disk.write path b.render.toUTF8 with
      | .error fault => (disk, journal, .error fault)
      | .ok disk => (disk, journal, .ok path)

/-- A buffer, the disk it can be written to and the journal. -/
structure Session where
  buffer : Buffer
  disk : Disk
  journal : Journal

end RubyClasses
