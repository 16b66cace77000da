import RubyClasses.Text
import RubyClasses.Text.Printable

/-! # Quoted texts

A message shows a text between quotes: single quotes, unless the text contains a single quote and
no double one. The quote, the backslash, line breaks and tabs are escaped by a backslash; a symbol
that is not printable is written by its code point in two, four or eight hexadecimal digits.
-/

namespace RubyClasses.Text

/-- The digits of a number in base sixteen, small letters, at least `width` of them. -/
def hexDigits (width n : Nat) : List Char :=
  let digits := Nat.toDigits 16 n
  List.replicate (width - digits.length) '0' ++ digits

/-- A code point as an escape of the shortest width that holds it. -/
def escapeCode (n : Nat) : List Char :=
  if n < 0x100 then '\\' :: 'x' :: hexDigits 2 n
  else if n < 0x10000 then '\\' :: 'u' :: hexDigits 4 n
  else '\\' :: 'U' :: hexDigits 8 n

/-- One symbol as it stands between quotes, where `shown` says which code points stand for
themselves. -/
def escapeSymbol (shown : Nat → Bool) (quote : Char) : Symbol → List Char
  | .lone n => escapeCode n
  | .char c =>
      if c = quote ∨ c = '\\' then ['\\', c]
      else if c = '\n' then ['\\', 'n']
      else if c = '\r' then ['\\', 'r']
      else if c = '\t' then ['\\', 't']
      else if shown c.toNat then [c]
      else escapeCode c.toNat

/-- The quote sign of a text: double when that saves escaping single ones. -/
def quoteSign (t : Text) : Char :=
  if Symbol.char '\'' ∈ t ∧ Symbol.char '"' ∉ t then '"' else '\''

/-- A text between quotes, where `shown` says which code points stand for themselves. -/
def quoteWith (shown : Nat → Bool) (t : Text) : String :=
  let quote := quoteSign t
  String.ofList (quote :: t.flatMap (escapeSymbol shown quote) ++ [quote])

/-- A text between quotes. -/
def quote (t : Text) : String := quoteWith isPrintable t

/-- A text between quotes with every symbol beyond the basic Latin ones escaped. -/
def quoteBasic (t : Text) : String := quoteWith (fun n => 32 ≤ n && n < 127) t

/-- A string between quotes. -/
def quoteString (s : String) : String := quote (ofString s)

end RubyClasses.Text
