import RubyClasses.Name

/-! # Models

A model declares structs and enums, and it holds all of them: every struct or enum that a member, a
list or a struct refers to is one of its declarations. A type is referred to by its place among the
declarations, so declarations may refer to each other in any order and in cycles. There is no way to
refer to a struct or an enum that is declared elsewhere.
-/

namespace RubyClasses

/-- The built-in scalar types. -/
inductive Primitive where
  | boolean
  | string
  | integer
  | decimal
  | date
  deriving DecidableEq, Repr

namespace Primitive

/-- The built-in types in their customary order. -/
def all : List Primitive := [boolean, string, integer, decimal, date]

/-- The name by which descriptions refer to a built-in type. -/
def keyword : Primitive → String
  | boolean => "boolean"
  | string => "string"
  | integer => "integer"
  | decimal => "decimal"
  | date => "date"

/-- The built-in type that a keyword refers to. -/
def ofKeyword? (s : String) : Option Primitive := all.find? fun p => p.keyword == s

theorem ofKeyword?_keyword (p : Primitive) : ofKeyword? p.keyword = some p := by
  cases p <;> decide

end Primitive

/-- The type of a member, or of the elements of a list. A struct or an enum is one of the
declarations of the model in which the reference stands. -/
inductive TypeRef where
  /-- A built-in type. -/
  | primitive (kind : Primitive)
  /-- The struct or enum that the model declares at an index. -/
  | declared (index : Nat)
  /-- Lists of elements of one type. -/
  | list (element : TypeRef)
  /-- Something that is no type, known by its text only. -/
  | unknown (text : String)
  deriving DecidableEq, Repr

/-- An attribute or a link of a struct. -/
structure Member where
  name : Name
  type : TypeRef
  deriving DecidableEq, Repr

/-- A struct with the members it declares itself. -/
structure Struct where
  name : Name
  /-- The struct that this one extends. -/
  base : Option TypeRef
  attributes : List Member
  links : List Member
  deriving DecidableEq, Repr

/-- An enumeration with its values. -/
structure Enumeration where
  name : Name
  values : List Name
  deriving DecidableEq, Repr

/-- A declared type. -/
inductive Declaration where
  | struct (s : Struct)
  | enumeration (e : Enumeration)
  deriving DecidableEq, Repr

/-- The name of a declared type. -/
def Declaration.name : Declaration → Name
  | struct s => s.name
  | enumeration e => e.name

/-- All declarations of one description, in its order. -/
structure Model where
  declarations : List Declaration
  deriving DecidableEq, Repr

/-- A type that generated code has a class or module for. -/
inductive Element where
  | primitive (kind : Primitive)
  | struct (name : Name)
  | enumeration (name : Name)
  deriving DecidableEq, Repr

/-- A member type that accessors can be generated for. -/
inductive Shape where
  | one (element : Element)
  | many (element : Element)
  deriving DecidableEq, Repr

namespace Model

/-- The struct that is declared at an index. -/
def struct? (m : Model) (index : Nat) : Option Struct :=
  match m.declarations[index]? with
  | some (.struct s) => some s
  | _ => none

/-- The structs of a model with their indexes. -/
def structs (m : Model) : List (Nat × Struct) :=
  m.declarations.zipIdx.filterMap fun
    | (.struct s, index) => some (index, s)
    | _ => none

/-- The enumerations of a model with their indexes. -/
def enumerations (m : Model) : List (Nat × Enumeration) :=
  m.declarations.zipIdx.filterMap fun
    | (.enumeration e, index) => some (index, e)
    | _ => none

/-- The struct that a struct extends. -/
def baseOf (m : Model) (s : Struct) : Option Struct :=
  match s.base with
  | some (.declared index) => m.struct? index
  | _ => none

/-- The element that a reference denotes, if it is neither a list nor unknown. Structs and enums are
looked up among the declarations, so an index behind them denotes nothing. -/
def element? (m : Model) : TypeRef → Option Element
  | .primitive kind => some (.primitive kind)
  | .declared index =>
      match m.declarations[index]? with
      | some (.struct s) => some (.struct s.name)
      | some (.enumeration e) => some (.enumeration e.name)
      | none => none
  | _ => none

/-- The shape of a member type: an element or a list of elements. -/
def shape? (m : Model) : TypeRef → Option Shape
  | .list element => (m.element? element).map .many
  | ref => (m.element? ref).map .one

end Model

end RubyClasses
