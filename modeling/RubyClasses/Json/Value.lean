import RubyClasses.Text.Quoted
import RubyClasses.Number.Decimal

/-! # Values of a description

A description is a JSON document. Its values keep what a message can show: the order of the
members of an object, and whether a number was written as an integer.
-/

namespace RubyClasses.Json

open Number

/-- A value of a document. The members of an object have different keys. -/
inductive Value where
  | null
  | bool (b : Bool)
  | int (n : Int)
  | float (x : Binary64)
  | text (t : Text)
  | array (items : List Value)
  | object (members : List (Text × Value))
  deriving Repr, Inhabited

namespace Value

/-- A value that counts as absent: nothing, falsehood, zero, and the empty text, array and
object. -/
def isEmpty : Value → Bool
  | null => true
  | bool b => !b
  | int n => n == 0
  | float x => x.isZero
  | text t => t.isEmpty
  | array items => items.isEmpty
  | object members => members.isEmpty

/-- The value of a member of an object. -/
def field? (members : List (Text × Value)) (key : String) : Option Value :=
  members.lookup (Text.ofString key)

mutual

/-- A value as messages show it. -/
def literal : Value → String
  | null => "None"
  | bool true => "True"
  | bool false => "False"
  | int n => toString n
  | float x => String.ofList x.toText
  | text t => t.quote
  | array items => "[" ++ ", ".intercalate (literals items) ++ "]"
  | object members => "\x7b" ++ ", ".intercalate (memberLiterals members) ++ "\x7d"

/-- The items of an array as messages show them. -/
def literals : List Value → List String
  | [] => []
  | v :: rest => literal v :: literals rest

/-- The members of an object as messages show them. -/
def memberLiterals : List (Text × Value) → List String
  | [] => []
  | (key, v) :: rest => (key.quote ++ ": " ++ literal v) :: memberLiterals rest

end

/-- Put a member into an object under construction. A key that is present keeps its place and gets
the new value. -/
def putMember (members : List (Text × Value)) (key : Text) (v : Value) : List (Text × Value) :=
  match members with
  | [] => [(key, v)]
  | (k, w) :: rest => if k = key then (k, v) :: rest else (k, w) :: putMember rest key v

end Value

end RubyClasses.Json
