/-! # Texts read from a description

A description can spell a surrogate code point that has no partner, which is no character of its
own. A text is therefore a list of symbols: characters, and surrogates that stand alone. Wherever a
text is used as characters, a lone surrogate counts as the replacement character, which is neither
blank nor part of any word.
-/

namespace RubyClasses

/-- One symbol of a text. -/
inductive Symbol where
  /-- A character. -/
  | char (c : Char)
  /-- A surrogate code point without a partner. -/
  | lone (code : Nat)
  deriving DecidableEq, Repr, Inhabited

namespace Symbol

/-- The code point of a symbol. -/
def code : Symbol → Nat
  | char c => c.toNat
  | lone n => n

/-- The character a symbol stands for; a lone surrogate stands for the replacement character. -/
def toChar : Symbol → Char
  | char c => c
  | lone _ => '\ufffd'

end Symbol

/-- A text is its symbols in order. -/
abbrev Text := List Symbol

namespace Text

/-- The text of a string, which has characters only. -/
def ofString (s : String) : Text := s.toList.map .char

/-- The characters of a text. -/
def toChars (t : Text) : List Char := t.map Symbol.toChar

/-- A text as a string. -/
def toString (t : Text) : String := String.ofList t.toChars

theorem toChars_ofString (s : String) : (ofString s).toChars = s.toList := by
  simp [ofString, toChars, Symbol.toChar, Function.comp_def]

theorem toString_ofString (s : String) : (ofString s).toString = s := by
  simp [toString, toChars_ofString]

end Text

end RubyClasses
