import RubyClasses.Model
import RubyClasses.Text.Blank

/-! # Type references

A description refers to a type by text: the keyword of a built-in type or the name of a declared
one, in any spelling, followed by a pair of brackets for every list around it. Blanks may stand
before and behind the name and the pairs of brackets.
-/

namespace RubyClasses

/-- A type reference, taken apart. -/
structure Reference where
  /-- The number of lists around the type. -/
  lists : Nat
  /-- What remains without brackets and blanks. -/
  target : List Char
  deriving DecidableEq, Repr

namespace Reference

/-- Take trailing blanks and pairs of brackets off a text that is given last character first. -/
def peel : List Char → Nat × List Char
  | ']' :: '[' :: rest =>
      let (lists, target) := peel rest
      (lists + 1, target)
  | c :: rest => if Text.isBlank c then peel rest else (0, c :: rest)
  | [] => (0, [])

/-- Take a reference apart. -/
def ofChars (cs : List Char) : Reference :=
  let (lists, target) := peel cs.reverse
  ⟨lists, Text.stripStart target.reverse⟩

/-- Put lists around a type. -/
def wrap : Nat → TypeRef → TypeRef
  | 0, ref => ref
  | lists + 1, ref => .list (wrap lists ref)

/-- The type that a target refers to among the declared names: a keyword comes before a name. -/
def targetType? (names : List Name) (target : List Char) : Option TypeRef :=
  let text := String.ofList target
  match Primitive.ofKeyword? text with
  | some kind => some (.primitive kind)
  | none => do
      let name ← Name.ofText? text
      let index ← names.findIdx? (· == name)
      return .declared index

/-- The type that a reference denotes among the declared names. -/
def resolve? (names : List Name) (r : Reference) : Option TypeRef :=
  (targetType? names r.target).map (wrap r.lists)

end Reference

end RubyClasses
