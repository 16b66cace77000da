import RubyClasses.CommandLine.Arguments
import RubyClasses.Text.Parts

/-! # Usage

The usage lines and the help text, laid out for a terminal of eighty columns.
-/

namespace RubyClasses.CommandLine

/-- The columns that text may fill. -/
def textWidth : Nat := 78

/-- The column at which descriptions start. -/
def descriptionColumn : Nat := 24

/-- Fill lines with parts, separated by single blanks. `column` is where the next part would start
and `indent` where further lines start; a part that is too long for any line gets its own. -/
def fillLines (width indent : Nat) (column : Nat) (line : List String) :
    List String → List String
  | [] => if line = [] then [] else [" ".intercalate line]
  | part :: rest =>
      if width < column + part.length ∧ line ≠ [] then
        " ".intercalate line :: fillLines width indent (indent + part.length + 1) [part] rest
      else fillLines width indent (column + part.length + 1) (line ++ [part]) rest

/-- A line behind a margin. -/
def behind (margin : Nat) (line : String) : String :=
  String.ofList (List.replicate margin ' ') ++ line

/-- A switch with the name of its value. -/
def withValueName (s : Switch) (spelling : String) : String :=
  match s.valueName? with
  | some value => spelling ++ " " ++ value
  | none => spelling

/-- A switch in usage lines: its first spelling in brackets. -/
def usagePart (s : Switch) : String :=
  "[" ++ withValueName s (s.spellings.headD "") ++ "]"

/-- The usage of the program under a name. A long name has a line of its own. -/
def usage (program : String) : String :=
  let start := "usage: "
  let parts := Switch.all.map usagePart
  let lines :=
    if 4 * (start.length + program.length) ≤ 3 * textWidth then
      let indent := start.length + program.length + 1
      match fillLines textWidth indent start.length [] (program :: parts) with
      | [] => []
      | first :: rest => first :: (rest ++ ["model_file"]).map (behind indent)
    else
      let indent := start.length
      program ::
        (fillLines textWidth indent indent [] parts ++ ["model_file"]).map (behind indent)
  start ++ "\n".intercalate lines ++ "\n"

/-- An entry of the help text: a heading, and a description in the right column, which starts on
the same line when the heading leaves room. -/
def helpEntry (heading description : String) : List String :=
  let words := (Text.partsAt ' ' description.toList).map String.ofList
  let lines := fillLines (textWidth - descriptionColumn) 0 0 [] words
  let heading := behind 2 heading
  if heading.length + 2 ≤ descriptionColumn then
    match lines with
    | [] => [heading]
    | first :: rest =>
        (heading ++ behind (descriptionColumn - heading.length) first) ::
          rest.map (behind descriptionColumn)
  else heading :: lines.map (behind descriptionColumn)

/-- The entry of a switch in the help text. -/
def switchEntry (s : Switch) : List String :=
  helpEntry (", ".intercalate (s.spellings.map (withValueName s))) s.description

/-- The help text of the program under a name. -/
def help (program : String) : String :=
  let lines := [
    "",
    "Generate Ruby SDK types from a model description",
    "",
    "positional arguments:"] ++
    helpEntry "model_file" "Path to the JSON model description" ++
    ["", "options:"] ++ Switch.all.flatMap switchEntry
  usage program ++ String.join (lines.map (· ++ "\n"))

/-- The text that refuses arguments. -/
def refusal (program : String) (fault : UsageFault) : String :=
  usage program ++ program ++ ": error: " ++ fault.message ++ "\n"

end RubyClasses.CommandLine
