import RubyClasses.Source.Template
import RubyClasses.Storage.Path

/-! # Source buffers

A buffer collects the lines of one source file, each indented by the current level. The files that
the source requires are collected apart from the lines and written in front of them, once each and
in ascending order. Blocks and modules are opened and closed explicitly; for text that comes line
by line, the level can also follow the look of each line.
-/

namespace RubyClasses

/-- The lines above every source file. -/
def licenseHeader : List String := [
  "#--",
  "# Copyright (c) 2015-2016 Red Hat, Inc.",
  "#",
  "# Licensed under the Apache License, Version 2.0 (the \"License\");",
  "# you may not use this file except in compliance with the License.",
  "# You may obtain a copy of the License at",
  "#",
  "#   http://www.apache.org/licenses/LICENSE-2.0",
  "#",
  "# Unless required by applicable law or agreed to in writing, software",
  "# distributed under the License is distributed on an \"AS IS\" BASIS,",
  "# WITHOUT WARRANTIES OR CONDITIONS OF ANY KIND, either express or implied.",
  "# See the License for the specific language governing permissions and",
  "# limitations under the License.",
  "#++"]

namespace Line

/-- A line starts with one of some texts. -/
def startsWithAny (starts : List String) (line : String) : Bool :=
  starts.any fun s => s.toList.isPrefixOf line.toList

/-- A line ends with one of some characters. -/
def endsWithAny (ends : List Char) (line : String) : Bool :=
  (line.toList.getLast?.map (ends.contains ·)).getD false

/-- A line looks like the start of a block. -/
def opens (line : String) : Bool :=
  endsWithAny ['(', '[', '|'] line || ["begin", "else", "ensure"].contains line ||
    startsWithAny
      ["case ", "class ", "def ", "if ", "loop ", "module ", "unless ", "when ", "while "] line

/-- A line looks like the end of a block. -/
def closes (line : String) : Bool :=
  [")", "]", "else", "end", "ensure"].contains line || startsWithAny ["when "] line

end Line

/-- The source of one file under construction. -/
structure Buffer where
  /-- The path of the file without its extension. -/
  fileName : String
  /-- The files that the source requires, in ascending order. -/
  requires : List String
  /-- The open modules, outermost first. -/
  modules : List String
  /-- The lines, the last one first. -/
  latestFirst : List String
  /-- The level of indentation. -/
  level : Nat
  deriving DecidableEq, Repr

namespace Buffer

/-- The empty source of a file. -/
def create (fileName : String) : Buffer := ⟨fileName, [], [], [], 0⟩

/-- The lines in the order in which they were written. -/
def lines (b : Buffer) : List String := b.latestFirst.reverse

/-- Insert a name into an ascending list, unless the list contains it. -/
def insertAscending (name : String) : List String → List String
  | [] => [name]
  | other :: rest =>
      if name < other then name :: other :: rest
      else if name = other then other :: rest
      else other :: insertAscending name rest

/-- Require a file. -/
def require (b : Buffer) (name : String) : Buffer :=
  { b with requires := insertAscending name b.requires }

/-- A line at a level of indentation. Empty lines are not indented. -/
def indented (level : Nat) (line : String) : String :=
  if line = "" then line else String.ofList (List.replicate (2 * level) ' ') ++ line

/-- Write a line at the current level. -/
def write (b : Buffer) (line : String) : Buffer :=
  { b with latestFirst := indented b.level line :: b.latestFirst }

/-- Writing adds one line behind all others. -/
@[simp]
theorem lines_write (b : Buffer) (line : String) :
    (b.write line).lines = b.lines ++ [indented b.level line] := by
  simp [lines, write]

/-- Go one level in. -/
def indent (b : Buffer) : Buffer := { b with level := b.level + 1 }

/-- Go one level out; the outermost level is not left. -/
def dedent (b : Buffer) : Buffer := { b with level := b.level - 1 }

/-- Write a line at the level that its look asks for: out for the end of a block, and in after the
start of one. -/
def addLine (b : Buffer) (line : String) : Buffer :=
  let b := if Line.closes line then b.dedent else b
  let b := b.write line
  if Line.opens line then b.indent else b

/-- Open a block. -/
def openBlock (b : Buffer) (header : String) : Buffer := (b.write header).indent

/-- Close a block. -/
def closeBlock (b : Buffer) (closer : String) : Buffer := b.dedent.write closer

/-- Open one module. -/
def openModule (b : Buffer) (name : String) : Buffer :=
  let b := b.openBlock ("module " ++ name)
  { b with modules := b.modules ++ [name] }

/-- Open the modules of a module name, outermost first. -/
def beginModule (b : Buffer) (name : String) : Buffer :=
  (Text.moduleParts name).foldl openModule b

/-- Close `count` modules, innermost first. The second result tells whether that many modules were
open. When they were not, one line too many has been written. -/
def closeModules : Nat → Buffer → Buffer × Bool
  | 0, b => (b, true)
  | count + 1, b =>
      let b := b.closeBlock "end"
      if b.modules = [] then (b, false)
      else closeModules count { b with modules := b.modules.dropLast }

/-- Close the modules of a module name. -/
def endModule (b : Buffer) (name : String) : Buffer × Bool :=
  closeModules (Text.moduleParts name).length b

/-- The complete source of the file. -/
def render (b : Buffer) : String :=
  let requires := b.requires.map fun name => "require '" ++ name ++ "'"
  let all := licenseHeader ++ [""] ++ requires ++ [""] ++ b.lines
  String.join (all.map (· ++ "\n"))

instance : ToString Buffer := ⟨render⟩

/-- The path of the file below a directory. -/
def filePath (b : Buffer) (directory : String) : Path :=
  (Path.ofText directory).below (Text.pathParts (b.fileName ++ ".rb"))

end Buffer

end RubyClasses
