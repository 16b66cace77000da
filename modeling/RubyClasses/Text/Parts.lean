/-! # Cutting a text at separators

Module names are cut at double colons, paths at slashes and names wherever no letter or digit
stands. Cutting keeps empty parts, and the parts joined by the separator give the text back.
-/

namespace RubyClasses.Text

/-- Put a character in front of the first part. -/
def consHead (c : Char) : List (List Char) → List (List Char)
  | [] => [[c]]
  | part :: parts => (c :: part) :: parts

/-- The parts of a text between its separators, which are single characters. -/
def partsBetween (isSeparator : Char → Bool) : List Char → List (List Char)
  | [] => [[]]
  | c :: rest =>
      if isSeparator c then [] :: partsBetween isSeparator rest
      else consHead c (partsBetween isSeparator rest)

/-- The parts of a text between the occurrences of a character. -/
def partsAt (separator : Char) : List Char → List (List Char) := partsBetween (· == separator)

/-- The parts of a text between its double colons, found from the left. -/
def partsAtColons : List Char → List (List Char)
  | ':' :: ':' :: rest => [] :: partsAtColons rest
  | c :: rest => consHead c (partsAtColons rest)
  | [] => [[]]

/-- The parts of a path. -/
def pathParts (s : String) : List String := (partsAt '/' s.toList).map String.ofList

/-- The components of a module name. -/
def moduleParts (s : String) : List String := (partsAtColons s.toList).map String.ofList

end RubyClasses.Text
