import RubyClasses.Text.CaseTable

/-! # Letter case

Capital, small and title forms of words. The basic Latin letters are mapped directly, all others
through the tables. A sigma is written in its final form at the end of a word.
-/

namespace RubyClasses.Text

/-- A code point lies in one of the ranges. -/
def inRanges (ranges : List (Nat × Nat)) (code : Nat) : Bool :=
  ranges.any fun range => range.1 ≤ code && code ≤ range.2

/-- The image of a code point under a list of runs, itself when no run contains it. -/
def throughRuns (runs : List (Nat × Nat × Nat × Int)) (code : Nat) : Nat :=
  let here := runs.find? fun (first, last, step, _) =>
    first ≤ code && code ≤ last && (code - first) % step == 0
  match here with
  | some (_, _, _, offset) => (code + offset).toNat
  | none => code

/-- The image of a character under special sequences first and runs second. -/
def throughTables (sequences : List (Nat × List Nat)) (runs : List (Nat × Nat × Nat × Int))
    (c : Char) : List Char :=
  match sequences.lookup c.toNat with
  | some image => image.map Char.ofNat
  | none => [Char.ofNat (throughRuns runs c.toNat)]

/-- The capital form of a character. -/
def capital (c : Char) : List Char :=
  if c.toNat < 128 then [c.toUpper] else throughTables capitalSequences capitalRuns c

/-- The small form of a character, wherever it stands. -/
def small (c : Char) : List Char :=
  if c.toNat < 128 then [c.toLower] else throughTables smallSequences smallRuns c

/-- The form of a character at the start of a title. -/
def title (c : Char) : List Char :=
  if c.toNat < 128 then [c.toUpper] else
    match titleForms.lookup c.toNat with
    | some image => image.map Char.ofNat
    | none => capital c

/-- The character has case: it is a capital, small or title letter. -/
def isCased (c : Char) : Bool :=
  if c.toNat < 128 then c.isAlpha else inRanges casedRanges c.toNat

/-- The character neither ends nor continues a word in the search for a final sigma. -/
def isPassedOver (c : Char) : Bool := inRanges passedOverRanges c.toNat

/-- The first character that is not passed over has case. -/
def meetsCased (cs : List Char) : Bool :=
  match cs.dropWhile isPassedOver with
  | c :: _ => isCased c
  | [] => false

/-- The small forms of the characters of a word, given what precedes them, nearest first. A sigma
after a cased character and not before one is final. -/
def lowerAfter (before : List Char) : List Char → List Char
  | [] => []
  | c :: rest =>
      (if c = 'Σ' then [if meetsCased before && !meetsCased rest then 'ς' else 'σ'] else small c) ++
        lowerAfter (c :: before) rest

/-- A string in small letters. -/
def lower (s : String) : String := String.ofList (lowerAfter [] s.toList)

/-- A string in capital letters. -/
def upper (s : String) : String := String.ofList (s.toList.flatMap capital)

/-- A word with its first character in title form and the others in small letters. -/
def capitalize (s : String) : String :=
  match s.toList with
  | [] => ""
  | c :: rest => String.ofList (title c ++ lowerAfter [c] rest)

end RubyClasses.Text
