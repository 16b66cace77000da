import RubyClasses.Text.Parts

/-! # Names

A model names its types, members and enum values by sequences of small words, whatever spelling
the description uses: `vmStatus`, `VM_STATUS` and `vm-status` are one name. Only the ASCII letters
and digits of a text belong to words; every other character separates them. Within a run of
letters and digits a new word starts where the case changes.
-/

namespace RubyClasses

/-- A name is the sequence of its words. -/
structure Name where
  /-- The words, in order. -/
  words : List String
  deriving DecidableEq, Repr, Inhabited, Hashable

namespace Name

/-- The characters that words are made of. -/
def isWordChar (c : Char) : Bool := c.isAlphanum

/-- Not a capital letter: within a run of word characters, a small letter or a digit. -/
def isSmallOrDigit (c : Char) : Bool := c.isLower || c.isDigit

/-- A capital letter or a digit. -/
def isCapitalOrDigit (c : Char) : Bool := c.isUpper || c.isDigit

/-- The length of the first word of a run that starts with `c`.

A run of capitals before a small letter leaves its last capital to the next word. A capital may
start a word of small letters and digits. Other capitals go together with the digits after them. -/
def firstWordLength (c : Char) (rest : List Char) : Nat :=
  if c.isUpper then
    let capitals := rest.takeWhile Char.isUpper
    match rest.dropWhile Char.isUpper with
    | d :: _ =>
        if capitals = [] then 1 + (rest.takeWhile isSmallOrDigit).length
        else if d.isLower then capitals.length
        else 1 + (rest.takeWhile isCapitalOrDigit).length
    | [] => 1 + capitals.length
  else 1 + (rest.takeWhile isSmallOrDigit).length

theorem firstWordLength_pos (c : Char) (rest : List Char) : 0 < firstWordLength c rest := by
  unfold firstWordLength
  split
  · dsimp only
    split
    · split
      · omega
      · next h =>
        split
        · exact List.length_pos_iff.mpr h
        · omega
    · omega
  · omega

/-- Cut a run of word characters into words. -/
def splitRun : List Char → List (List Char)
  | [] => []
  | c :: rest =>
      let n := firstWordLength c rest
      (c :: rest).take n :: splitRun ((c :: rest).drop n)
  termination_by run => run.length
  decreasing_by
    have := firstWordLength_pos c rest
    simp only [List.length_drop, List.length_cons]
    omega

/-- The maximal runs of word characters of a text. -/
def runs (cs : List Char) : List (List Char) :=
  (Text.partsBetween (fun c => !isWordChar c) cs).filter fun run => !run.isEmpty

/-- The words of a text, in small letters. -/
def wordsOf (cs : List Char) : List String :=
  ((runs cs).flatMap splitRun).map fun word => String.ofList (word.map Char.toLower)

/-- The name that a text spells; a text without letters and digits spells none. -/
def ofText? (s : String) : Option Name :=
  match wordsOf s.toList with
  | [] => none
  | words => some ⟨words⟩

/-- The words joined by underscores. -/
def toString (name : Name) : String := "_".intercalate name.words

instance : ToString Name := ⟨toString⟩

/-- Names are ordered by their words, the words by their code points. -/
instance : LT Name := ⟨fun a b => a.words < b.words⟩

instance : LE Name := ⟨fun a b => ¬b < a⟩

instance (a b : Name) : Decidable (a < b) := inferInstanceAs (Decidable (a.words < b.words))

instance (a b : Name) : Decidable (a ≤ b) := inferInstanceAs (Decidable (¬b < a))

/-- Sort by name; entries of one name keep their order. -/
def sortBy {α : Type} (name : α → Name) (entries : List α) : List α :=
  entries.mergeSort fun a b => decide (name a ≤ name b)

end Name

end RubyClasses
