import RubyClasses.Json.Value

/-! # Reading a description

A reader for JSON texts that also takes the names of the non-finite numbers. The readers work on
what remains of the text; a fault keeps the rest of the text at the place it concerns, from which
its line and column are computed.
-/

namespace RubyClasses.Json

open Number

/-- What is wrong with the syntax of a text at some place. -/
inductive SyntaxFault where
  | byteOrderMark
  | value
  | propertyName
  | colon
  | comma
  | extraData
  | unterminatedText
  | controlCharacter
  | escape
  | codePointEscape
  deriving DecidableEq, Repr

/-- The description of a fault. -/
def SyntaxFault.message : SyntaxFault → String
  | byteOrderMark => "Unexpected UTF-8 BOM (decode using utf-8-sig)"
  | value => "Expecting value"
  | propertyName => "Expecting property name enclosed in double quotes"
  | colon => "Expecting ':' delimiter"
  | comma => "Expecting ',' delimiter"
  | extraData => "Extra data"
  | unterminatedText => "Unterminated string starting at"
  | controlCharacter => "Invalid control character at"
  | escape => "Invalid \\escape"
  | codePointEscape => "Invalid \\uXXXX escape"

/-- Why a text cannot be read. -/
inductive Fault where
  /-- The syntax is wrong where `rest` remains. -/
  | malformed (fault : SyntaxFault) (rest : List Char)
  /-- An integer has more digits than the limit. -/
  | longInteger (digits : Nat)
  deriving DecidableEq, Repr

/-- A reader of part of a text also returns what follows that part. -/
abbrev Reading (α : Type) := Except Fault (α × List Char)

/-- The blanks between the parts of a document. -/
def isSpace (c : Char) : Bool := c == ' ' || c == '\t' || c == '\n' || c == '\r'

/-- Pass over blanks. -/
def skipSpace (cs : List Char) : List Char := cs.dropWhile isSpace

/-- The value of a hexadecimal digit. -/
def hexValue? (c : Char) : Option Nat :=
  if c.isDigit then some (c.toNat - '0'.toNat)
  else if 'a' ≤ c ∧ c ≤ 'f' then some (c.toNat - 'a'.toNat + 10)
  else if 'A' ≤ c ∧ c ≤ 'F' then some (c.toNat - 'A'.toNat + 10)
  else none

/-- The code that four hexadecimal digits spell. At least one more character has to follow. -/
def codeOf? : List Char → Option Nat
  | a :: b :: c :: d :: _ :: _ => do
      let a ← hexValue? a
      let b ← hexValue? b
      let c ← hexValue? c
      let d ← hexValue? d
      return ((a * 16 + b) * 16 + c) * 16 + d
  | _ => none

/-- The character a single-letter escape stands for. -/
def shortEscape? : Char → Option Char
  | '"' => some '"'
  | '\\' => some '\\'
  | '/' => some '/'
  | 'b' => some '\x08'
  | 'f' => some '\x0c'
  | 'n' => some '\n'
  | 'r' => some '\r'
  | 't' => some '\t'
  | _ => none

/-- The first of a pair of codes that spell one character together. -/
def isHighSurrogate (n : Nat) : Bool := 0xd800 ≤ n && n ≤ 0xdbff

/-- The second of a pair of codes that spell one character together. -/
def isLowSurrogate (n : Nat) : Bool := 0xdc00 ≤ n && n ≤ 0xdfff

/-- The symbol of a code that is not paired. -/
def symbolOf (n : Nat) : Symbol :=
  if isHighSurrogate n || isLowSurrogate n then .lone n else .char (Char.ofNat n)

/-- Put an escaped code in front of the symbols that follow it. A high surrogate and a low one
right behind it spell one character. -/
def joinCode (n : Nat) : Text → Text
  | .lone m :: rest =>
      if isHighSurrogate n && isLowSurrogate m then
        .char (Char.ofNat (0x10000 + (n - 0xd800) * 0x400 + (m - 0xdc00))) :: rest
      else symbolOf n :: .lone m :: rest
  | rest => symbolOf n :: rest

/-- The symbols of a text up to its closing quote; `opening` is what remains at the opening one. -/
def readText (opening : List Char) : List Char → Reading Text
  | [] => .error (.malformed .unterminatedText opening)
  | '"' :: rest => .ok ([], rest)
  | ['\\'] => .error (.malformed .unterminatedText opening)
  | '\\' :: 'u' :: digits =>
      match codeOf? digits with
      | none => .error (.malformed .codePointEscape ('u' :: digits))
      | some n => (readText opening (digits.drop 4)).map fun (t, after) => (joinCode n t, after)
  | '\\' :: e :: rest =>
      match shortEscape? e with
      | none => .error (.malformed .escape ('\\' :: e :: rest))
      | some c => (readText opening rest).map fun (t, after) => (.char c :: t, after)
  | c :: rest =>
      if c.toNat < 0x20 then .error (.malformed .controlCharacter (c :: rest))
      else (readText opening rest).map fun (t, after) => (.char c :: t, after)
  termination_by cs => cs.length
  decreasing_by all_goals simp; try omega

/-- The digits at the start of a text. -/
def takeDigits (cs : List Char) : List Char := cs.takeWhile Char.isDigit

/-- What follows the digits at the start of a text. -/
def dropDigits (cs : List Char) : List Char := cs.dropWhile Char.isDigit

/-- The digits of a fraction, if a point and a digit come next. -/
def readFraction : List Char → Option (List Char × List Char)
  | '.' :: rest => if takeDigits rest = [] then none else some (takeDigits rest, dropDigits rest)
  | _ => none

/-- The sign at the start of an exponent. -/
def readSign : List Char → Bool × List Char
  | '-' :: rest => (true, rest)
  | '+' :: rest => (false, rest)
  | rest => (false, rest)

/-- An exponent, if its letter, perhaps a sign and a digit come next. -/
def readExponent (cs : List Char) : Option (Int × List Char) :=
  match cs with
  | e :: rest =>
      if e = 'e' ∨ e = 'E' then
        let (negative, rest) := readSign rest
        let ds := takeDigits rest
        if ds = [] then none
        else some (if negative then -(ofDigits ds : Int) else ofDigits ds, dropDigits rest)
      else none
  | [] => none

/-- The greatest number of digits of an integer. -/
def integerDigitLimit : Nat := 4300

/-- The digits of the whole part of a number: a single zero, or digits without a zero first. -/
def wholeDigits : List Char → List Char
  | '0' :: _ => ['0']
  | cs => takeDigits cs

/-- A number without its sign. A number with a fraction or an exponent is a binary64 number. -/
def readNumber (start : List Char) (negative : Bool) (cs : List Char) : Reading Value :=
  let whole := wholeDigits cs
  let rest := cs.drop whole.length
  if whole = [] then .error (.malformed .value start)
  else
    let fraction := readFraction rest
    let (places, rest) := fraction.getD ([], rest)
    let exponent := readExponent rest
    let (scale, rest) := exponent.getD (0, rest)
    if fraction.isSome || exponent.isSome then
      let x := Binary64.ofDecimal negative (ofDigits (whole ++ places)) (scale - places.length)
      .ok (.float x, rest)
    else if integerDigitLimit < whole.length then .error (.longInteger whole.length)
    else .ok (.int (if negative then -(ofDigits whole : Int) else ofDigits whole), rest)

/-- The words that stand for values. -/
def wordValues : List (String × Value) := [
  ("null", .null), ("true", .bool true), ("false", .bool false), ("NaN", .float .nan),
  ("Infinity", .float (.infinite false)), ("-Infinity", .float (.infinite true))]

/-- The value of a word at the start of a text. -/
def readWord? (cs : List Char) : Option (Value × List Char) :=
  wordValues.findSome? fun (word, v) =>
    if word.toList.isPrefixOf cs then some (v, cs.drop word.length) else none

/-- A value that is no text, array or object. -/
def readScalar (cs : List Char) : Reading Value :=
  match readWord? cs with
  | some found => .ok found
  | none =>
      match cs with
      | '-' :: rest => readNumber cs true rest
      | _ => readNumber cs false cs

mutual

/-- The value at the start of a text. The first argument bounds the depth of the recursion; the
length of the text suffices. -/
def readValue : Nat → List Char → Reading Value
  | 0, cs => .error (.malformed .value cs)
  | fuel + 1, cs =>
      match cs with
      | '"' :: rest => (readText cs rest).map fun (t, after) => (.text t, after)
      | '[' :: rest =>
          match skipSpace rest with
          | ']' :: after => .ok (.array [], after)
          | inside => (readItems fuel inside).map fun (items, after) => (.array items, after)
      | '\x7b' :: rest =>
          match skipSpace rest with
          | '\x7d' :: after => .ok (.object [], after)
          | inside => (readMembers fuel [] inside).map fun (ms, after) => (.object ms, after)
      | _ => readScalar cs

/-- The items of an array up to its closing bracket. -/
def readItems : Nat → List Char → Reading (List Value)
  | 0, cs => .error (.malformed .value cs)
  | fuel + 1, cs =>
      match readValue fuel cs with
      | .error e => .error e
      | .ok (v, rest) =>
          match skipSpace rest with
          | ']' :: after => .ok ([v], after)
          | ',' :: more =>
              (readItems fuel (skipSpace more)).map fun (items, after) => (v :: items, after)
          | other => .error (.malformed .comma other)

/-- The members of an object up to its closing brace, put behind the earlier ones. -/
def readMembers : Nat → List (Text × Value) → List Char → Reading (List (Text × Value))
  | 0, _, cs => .error (.malformed .value cs)
  | fuel + 1, earlier, cs =>
      match cs with
      | '"' :: rest =>
          match readText cs rest with
          | .error e => .error e
          | .ok (key, rest) =>
              match skipSpace rest with
              | ':' :: rest =>
                  match readValue fuel (skipSpace rest) with
                  | .error e => .error e
                  | .ok (v, rest) =>
                      let members := Value.putMember earlier key v
                      match skipSpace rest with
                      | '\x7d' :: after => .ok (members, after)
                      | ',' :: more => readMembers fuel members (skipSpace more)
                      | other => .error (.malformed .comma other)
              | other => .error (.malformed .colon other)
      | _ => .error (.malformed .propertyName cs)

end

/-- Read a document that has to fill the whole text, blanks around it apart. -/
def readDocument (cs : List Char) : Except Fault Value :=
  if cs.head? = some '\ufeff' then .error (.malformed .byteOrderMark cs)
  else
    match readValue (2 * cs.length + 2) (skipSpace cs) with
    | .error e => .error e
    | .ok (v, rest) =>
        match skipSpace rest with
        | [] => .ok v
        | extra => .error (.malformed .extraData extra)

/-- Where a text `cs` was cut off so that `rest` remains: its line and column, both counted from
one, and the number of characters before it. -/
def placeOf (cs rest : List Char) : Nat × Nat × Nat :=
  let before := cs.take (cs.length - rest.length)
  let line := before.reverse.takeWhile (· != '\n')
  (before.count '\n' + 1, line.length + 1, before.length)

end RubyClasses.Json
