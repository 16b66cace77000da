/-! # Blank characters

The characters that count as blank around a type reference, and their removal at the start of a
text.
-/

namespace RubyClasses.Text

/-- A character is blank when it separates words, lines or paragraphs, or is one of the controls
that stand for such a separator. -/
def isBlank (c : Char) : Bool :=
  let n := c.toNat
  (9 ≤ n && n ≤ 13) || (28 ≤ n && n ≤ 32) || n == 0x85 || n == 0xa0 || n == 0x1680 ||
    (0x2000 ≤ n && n ≤ 0x200a) || n == 0x2028 || n == 0x2029 || n == 0x202f || n == 0x205f ||
    n == 0x3000

/-- Leave out the blanks at the start. -/
def stripStart (cs : List Char) : List Char := cs.dropWhile isBlank

end RubyClasses.Text
