import RubyClasses.Text.Parts

/-! # Paths

A path is a root, which is empty for a relative path, and the parts below it. Empty parts and
single dots are left out, double dots are kept.
-/

namespace RubyClasses

/-- A path. -/
structure Path where
  /-- Empty for a relative path, else one slash, or two when the path starts with exactly two. -/
  root : String
  parts : List String
  deriving DecidableEq, Repr

namespace Path

/-- A part that means something. -/
def isProper (part : String) : Bool := part != "" && part != "."

/-- The path that a text denotes. -/
def ofText (s : String) : Path :=
  let root :=
    match (s.toList.takeWhile (· == '/')).length with
    | 0 => ""
    | 2 => "//"
    | _ => "/"
  ⟨root, (Text.pathParts s).filter isProper⟩

/-- A path below another one. The parts contain no slashes. -/
def below (p : Path) (parts : List String) : Path :=
  { p with parts := p.parts ++ parts.filter isProper }

/-- A path as text; the empty relative path is a dot. -/
def toString (p : Path) : String :=
  match p.root ++ "/".intercalate p.parts with
  | "" => "."
  | text => text

/-- The path without its last part. -/
def parent (p : Path) : Path := { p with parts := p.parts.dropLast }

/-- A path as seen from the root, given the parts that lead to the working directory. -/
def absolute (workingDirectory : List String) (p : Path) : Path :=
  if p.root = "" then ⟨"/", workingDirectory ++ p.parts⟩ else p

end Path

end RubyClasses
