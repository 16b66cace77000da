/-! # Switches

The switches of the command line, their spellings and what they are for.
-/

namespace RubyClasses.CommandLine

/-- A switch. -/
inductive Switch where
  | help
  | outputDirectory
  | module
  | modulePath
  | baseClass
  | require
  | verbose
  deriving DecidableEq, Repr

namespace Switch

/-- All switches, in the order in which they are documented. -/
def all : List Switch := [help, outputDirectory, module, modulePath, baseClass, require, verbose]

/-- The spellings of a switch, the one that usage lines show first. -/
def spellings : Switch → List String
  | help => ["-h", "--help"]
  | outputDirectory => ["--output-dir", "-o"]
  | module => ["--module", "-m"]
  | modulePath => ["--module-path"]
  | baseClass => ["--base-class"]
  | require => ["--require"]
  | verbose => ["--verbose", "-v"]

/-- The name of the value of a switch that takes one. -/
def valueName? : Switch → Option String
  | outputDirectory => some "OUTPUT_DIR"
  | module => some "MODULE"
  | modulePath => some "MODULE_PATH"
  | baseClass => some "BASE_CLASS"
  | require => some "REQUIRES"
  | _ => none

/-- A switch takes a value. -/
def takesValue (s : Switch) : Bool := s.valueName?.isSome

/-- What a switch is for. -/
def description : Switch → String
  | help => "show this help message and exit"
  | outputDirectory => "Output directory"
  | module => "Ruby module of the SDK, may contain '::'"
  | modulePath => "Directory of the module (derived from --module)"
  | baseClass => "Class extended by structs without a base"
  | require => "Extra file to require from the generated source (repeatable)"
  | verbose => "Log debug messages"

/-- All spellings with their switches. -/
def table : List (String × Switch) :=
  all.flatMap fun s => s.spellings.map fun spelling => (spelling, s)

/-- The switch that is spelled so. -/
def ofSpelling? (spelling : String) : Option Switch := table.lookup spelling

/-- The switch that a single letter spells. -/
def ofLetter? (c : Char) : Option Switch := ofSpelling? (String.ofList ['-', c])

/-- The spellings that start with a text, with their switches. -/
def completions (start : List Char) : List (String × Switch) :=
  table.filter fun (spelling, _) => start.isPrefixOf spelling.toList

/-- A switch as faults call it. -/
def title (s : Switch) : String := "/".intercalate s.spellings

end Switch

end RubyClasses.CommandLine
