import RubyClasses.Model
import RubyClasses.Text.Case
import RubyClasses.Text.Parts
import RubyClasses.Text.Quoted

/-! # Ruby names

The spelling of names in generated code: classes in camel case, accessors in snake case and
constants in capitals. The configuration of a run fixes the module that the classes live in, the
directory of that module and the class that structs extend when they extend no other struct.
-/

namespace RubyClasses

/-- A class name with the module that contains it, if any. -/
structure QualifiedName where
  className : String
  moduleName : String
  deriving DecidableEq, Repr

/-- The module and the class, separated by a double colon. -/
def QualifiedName.toString (q : QualifiedName) : String :=
  if q.moduleName = "" then q.className else q.moduleName ++ "::" ++ q.className

namespace Name

/-- Words that cannot name an accessor. -/
def reservedWords : List String := [
  "alias", "and", "begin", "break", "case", "class", "def", "defined?", "do", "else", "elsif",
  "end", "ensure", "false", "for", "if", "in", "module", "next", "nil", "not", "or", "redo",
  "rescue", "retry", "return", "self", "super", "then", "true", "undef", "unless", "until", "when",
  "while", "yield"]

/-- The name of a class: all words capitalized and joined. -/
def className (name : Name) : String := String.join (name.words.map Text.capitalize)

/-- The name of an accessor: all words joined by underscores. An underscore behind it keeps a
reserved word apart. -/
def accessorName (name : Name) : String :=
  if name.toString ∈ reservedWords then name.toString ++ "_" else name.toString

/-- The name of a constant: all words in capitals, joined by underscores. -/
def constantName (name : Name) : String := Text.upper name.toString

end Name

/-- The class of the values of a built-in type. -/
def Primitive.className : Primitive → String
  | boolean => "Boolean"
  | string => "String"
  | integer => "Integer"
  | decimal => "Float"
  | date => "DateTime"

/-- Why a type has no class of its own. -/
inductive NamingFault where
  /-- Lists have no class per element type. -/
  | list
  /-- The reference denotes no type. -/
  | unknown (text : String)
  deriving DecidableEq, Repr

/-- The description of a fault. -/
def NamingFault.message : NamingFault → String
  | list => "List types don't have a Ruby class name"
  | unknown text => "Don't know how to name type " ++ Text.quoteString text

/-- The names that a run of the generator is configured with. -/
structure Naming where
  /-- The module that contains the generated classes. -/
  moduleName : String
  /-- The directory of the module. -/
  modulePath : String
  /-- The class that structs without a base extend. -/
  baseClass : String
  deriving DecidableEq, Repr

namespace Naming

/-- The directory that belongs to a module: its components in small letters. -/
def pathOfModule (moduleName : String) : String :=
  "/".intercalate (Text.moduleParts (Text.lower moduleName))

/-- A configuration. Without a directory, the one that belongs to the module is used. -/
def configure (moduleName modulePath baseClass : String) : Naming :=
  ⟨moduleName, if modulePath = "" then pathOfModule moduleName else modulePath, baseClass⟩

/-- The class of an element; built-in types live outside the module. -/
def elementName (naming : Naming) : Element → QualifiedName
  | .primitive kind => ⟨kind.className, ""⟩
  | .struct name => ⟨name.className, naming.moduleName⟩
  | .enumeration name => ⟨name.className, naming.moduleName⟩

/-- The class of a type. -/
def typeName (naming : Naming) (m : Model) (ref : TypeRef) : Except NamingFault QualifiedName :=
  match m.element? ref, ref with
  | some element, _ => .ok (naming.elementName element)
  | none, .unknown text => .error (.unknown text)
  | none, _ => .error .list

/-- The class that structs without a base extend. -/
def baseName (naming : Naming) : QualifiedName := ⟨naming.baseClass, naming.moduleName⟩

end Naming

end RubyClasses
