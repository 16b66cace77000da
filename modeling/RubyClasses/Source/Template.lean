import RubyClasses.Number.Decimal
import RubyClasses.Text.Quoted

/-! # Templates of lines

A line can be given as a template with directives and the arguments that fill them. A directive
is a percent sign, flags, a width, a precision and a conversion letter; width and precision may be
taken from the arguments. A template is first cut into pieces, which never fails: what is wrong
with it is found when the piece is filled, so the leftmost fault wins.
-/

namespace RubyClasses

open Number

/-- An argument of a template. -/
inductive Argument where
  | none
  | bool (b : Bool)
  | int (n : Int)
  | float (x : Binary64)
  | text (s : String)
  deriving Repr

namespace Argument

/-- The kind of an argument, as messages call it. -/
def kind : Argument → String
  | none => "NoneType"
  | bool _ => "bool"
  | int _ => "int"
  | float _ => "float"
  | text _ => "str"

/-- The integer that an argument is. -/
def int? : Argument → Option Int
  | bool b => some (if b then 1 else 0)
  | int n => some n
  | _ => Option.none

/-- An argument as text. -/
def shown : Argument → String
  | none => "None"
  | bool true => "True"
  | bool false => "False"
  | int n => toString n
  | float x => String.ofList x.toText
  | text s => s

/-- An argument as it would be written in a program, where `quote` writes texts. -/
def literal (quote : Text → String) : Argument → String
  | text s => quote (Text.ofString s)
  | other => other.shown

end Argument

/-- Why a template cannot be filled. -/
inductive TemplateFault where
  /-- A directive asks for an argument by name. -/
  | namedArgument
  /-- The template ends inside a directive. -/
  | incomplete
  | missingArgument
  | unusedArgument
  | widthNotInteger
  | widthTooBig
  | widthOutOfRange
  | precisionTooBig
  | precisionOutOfRange
  | precisionTooLarge
  | unknownConversion (letter : Char) (index : Nat)
  | realRequired (letter : Char) (kind : String)
  | integerRequired (letter : Char) (kind : String)
  | numberRequired (kind : String)
  | infinityToInteger
  | notANumberToInteger
  | integerToReal
  | characterRequired
  | characterOutOfRange
  deriving DecidableEq, Repr

/-- The description of a fault. -/
def TemplateFault.message : TemplateFault → String
  | namedArgument => "format requires a mapping"
  | incomplete => "incomplete format"
  | missingArgument => "not enough arguments for format string"
  | unusedArgument => "not all arguments converted during string formatting"
  | widthNotInteger => "* wants int"
  | widthTooBig => "width too big"
  | widthOutOfRange => "Python int too large to convert to C ssize_t"
  | precisionTooBig => "precision too big"
  | precisionOutOfRange => "Python int too large to convert to C int"
  | precisionTooLarge => "precision too large"
  | unknownConversion letter index =>
      let shown := if 31 ≤ letter.toNat && letter.toNat ≤ 126 then letter else '?'
      "unsupported format character '" ++ shown.toString ++ "' (0x" ++
        String.ofList (Nat.toDigits 16 letter.toNat) ++ s!") at index {index}"
  | realRequired letter kind =>
      "%" ++ letter.toString ++ " format: a real number is required, not " ++ kind
  | integerRequired letter kind =>
      "%" ++ letter.toString ++ " format: an integer is required, not " ++ kind
  | numberRequired kind => "must be real number, not " ++ kind
  | infinityToInteger => "cannot convert float infinity to integer"
  | notANumberToInteger => "cannot convert float NaN to integer"
  | integerToReal => "int too large to convert to float"
  | characterRequired => "%c requires int or char"
  | characterOutOfRange => "%c arg not in range(0x110000)"

namespace Template

/-- A width or a precision. -/
inductive Amount where
  | absent
  | number (n : Nat)
  /-- The next argument is the amount. -/
  | argument
  /-- The digits exceed the range. -/
  | tooBig
  deriving DecidableEq, Repr

/-- The flags of a directive. -/
structure Flags where
  left : Bool
  sign : Bool
  blank : Bool
  zero : Bool
  alternate : Bool
  deriving DecidableEq, Repr

/-- A directive. -/
structure Directive where
  flags : Flags
  width : Amount
  precision : Amount
  /-- The conversion letter, unless the template ends before it. -/
  letter : Option Char
  deriving DecidableEq, Repr

/-- A piece of a template. -/
inductive Piece where
  /-- A character that stands for itself. -/
  | plain (c : Char)
  /-- The start of a directive that names its argument. -/
  | named
  /-- A directive and the index of its conversion letter. -/
  | directive (d : Directive) (index : Nat)
  deriving DecidableEq, Repr

/-- A flag of a directive. -/
def isFlag (c : Char) : Bool := c == '-' || c == '+' || c == ' ' || c == '#' || c == '0'

/-- A letter that may stand before the conversion letter and means nothing. -/
def isSizeLetter (c : Char) : Bool := c == 'h' || c == 'l' || c == 'L'

/-- The greatest width. -/
def widthLimit : Nat := 9223372036854775807

/-- The greatest precision. -/
def precisionLimit : Nat := 2147483647

/-- Read an amount; what follows it remains. -/
def readAmount (limit : Nat) : List Char → Amount × List Char
  | '*' :: rest => (.argument, rest)
  | cs =>
      let ds := cs.takeWhile Char.isDigit
      let n := ofDigits ds
      let amount := if ds = [] then .absent else if n ≤ limit then .number n else .tooBig
      (amount, cs.dropWhile Char.isDigit)

/-- Read a precision, which starts with a point. A point alone means zero. -/
def readPrecision : List Char → Amount × List Char
  | '.' :: rest =>
      match readAmount precisionLimit rest with
      | (.absent, after) => (.number 0, after)
      | found => found
  | cs => (.absent, cs)

/-- Pass over a size letter. -/
def skipSize : List Char → List Char
  | c :: rest => if isSizeLetter c then rest else c :: rest
  | [] => []

/-- Read a directive behind its percent sign; what follows it remains. -/
def readDirective (cs : List Char) : Directive × List Char :=
  let marks := cs.takeWhile isFlag
  let flags : Flags :=
    ⟨'-' ∈ marks, '+' ∈ marks, ' ' ∈ marks, '0' ∈ marks, '#' ∈ marks⟩
  let (width, rest) := readAmount widthLimit (cs.dropWhile isFlag)
  let (precision, rest) := readPrecision rest
  let rest := skipSize rest
  (⟨flags, width, precision, rest.head?⟩, rest.tail)

theorem readAmount_length (limit : Nat) (cs : List Char) :
    (readAmount limit cs).2.length ≤ cs.length := by
  unfold readAmount
  split
  · simp
  · exact (List.dropWhile_suffix _).length_le

theorem readPrecision_length (cs : List Char) : (readPrecision cs).2.length ≤ cs.length := by
  unfold readPrecision
  split
  · next rest =>
    have h := readAmount_length precisionLimit rest
    split
    · next after heq => rw [heq] at h; simp only [List.length_cons]; exact Nat.le_succ_of_le h
    · exact Nat.le_succ_of_le h
  · exact Nat.le_refl _

theorem skipSize_length (cs : List Char) : (skipSize cs).length ≤ cs.length := by
  unfold skipSize
  split
  · split <;> simp
  · exact Nat.le_refl _

/-- A directive takes characters off a template and adds none. -/
theorem readDirective_length (cs : List Char) : (readDirective cs).2.length ≤ cs.length := by
  have hflags := (List.dropWhile_suffix isFlag : cs.dropWhile isFlag <:+ cs).length_le
  have hwidth := readAmount_length widthLimit (cs.dropWhile isFlag)
  have hprecision := readPrecision_length (readAmount widthLimit (cs.dropWhile isFlag)).2
  have hsize := skipSize_length
    (readPrecision (readAmount widthLimit (cs.dropWhile isFlag)).2).2
  simp only [readDirective, List.length_tail]
  omega

/-- Cut a template of `total` characters, of which the given ones remain, into pieces. -/
def piecesFrom (total : Nat) : List Char → List Piece
  | [] => []
  | '%' :: '%' :: rest => .plain '%' :: piecesFrom total rest
  | '%' :: '(' :: rest => .named :: piecesFrom total rest
  | '%' :: rest =>
      let read := readDirective rest
      .directive read.1 (total - read.2.length - 1) :: piecesFrom total read.2
  | c :: rest => .plain c :: piecesFrom total rest
  termination_by cs => cs.length
  decreasing_by
    · simp only [List.length_cons]
      omega
    · simp only [List.length_cons]
      omega
    · exact Nat.lt_succ_of_le (readDirective_length rest)
    · simp

/-- The pieces of a template. -/
def pieces (template : String) : List Piece :=
  piecesFrom template.toList.length template.toList

/-- A formatted argument before padding. -/
structure Field where
  /-- The field is a number: it has a sign and can be filled with zeros. -/
  numeric : Bool
  negative : Bool
  /-- The mark of the base. -/
  mark : List Char
  body : List Char
  deriving DecidableEq, Repr

/-- Pad a field to a width. -/
def pad (flags : Flags) (width : Nat) (f : Field) : List Char :=
  let sign :=
    if !f.numeric then []
    else if f.negative then ['-']
    else if flags.sign then ['+']
    else if flags.blank then [' ']
    else []
  let head := sign ++ f.mark
  let gap := width - (head.length + f.body.length)
  if flags.left then head ++ f.body ++ List.replicate gap ' '
  else if f.numeric && flags.zero then head ++ List.replicate gap '0' ++ f.body
  else List.replicate gap ' ' ++ head ++ f.body

/-- Format an integer in a base, with at least `precision` digits. -/
def integerField (letter : Char) (flags : Flags) (precision : Option Nat) (n : Int) : Field :=
  let base := if letter = 'o' then 8 else if letter = 'x' ∨ letter = 'X' then 16 else 10
  let digits := Nat.toDigits base n.natAbs
  let digits := if letter = 'X' then digits.map Char.toUpper else digits
  let mark := if flags.alternate && base != 10 then ['0', letter] else []
  let zeros := List.replicate (precision.getD 0 - digits.length) '0'
  ⟨true, n < 0, mark, zeros ++ digits⟩

/-- Format a binary64 number. A capital letter asks for capitals. -/
def realField (letter : Char) (flags : Flags) (precision : Option Nat) (x : Binary64) : Field :=
  let places := precision.getD 6
  let (negative, body) :=
    match x with
    | .nan => (false, ['n', 'a', 'n'])
    | .infinite negative => (negative, ['i', 'n', 'f'])
    | .finite negative significand exponent =>
        let write :=
          match letter.toLower with
          | 'e' => Binary64.scientificText
          | 'f' => Binary64.fixedText
          | _ => Binary64.generalText
        (negative, write flags.alternate places significand exponent)
  ⟨true, negative, [], if letter.isUpper then body.map Char.toUpper else body⟩

/-- Format a text, cut to the precision. -/
def textField (precision : Option Nat) (s : String) : Field :=
  let cs := s.toList
  ⟨false, false, [], match precision with | some n => cs.take n | none => cs⟩

/-- The integer that a decimal conversion writes. -/
def decimalOf (letter : Char) (a : Argument) : Except TemplateFault Int :=
  match a with
  | .float .nan => .error .notANumberToInteger
  | .float x =>
      match x.truncate? with
      | some n => .ok n
      | none => .error .infinityToInteger
  | a =>
      match a.int? with
      | some n => .ok n
      | none => .error (.realRequired letter a.kind)

/-- The number that a real conversion writes. -/
def realOf (a : Argument) : Except TemplateFault Binary64 :=
  match a with
  | .float x => .ok x
  | a =>
      match a.int? with
      | some n =>
          match Binary64.ofInt n with
          | .infinite _ => .error .integerToReal
          | x => .ok x
      | none => .error (.numberRequired a.kind)

/-- The character that a character conversion writes. -/
def characterOf (a : Argument) : Except TemplateFault Char :=
  match a with
  | .text s =>
      match s.toList with
      | [c] => .ok c
      | _ => .error .characterRequired
  | a =>
      match a.int? with
      | some n =>
          if 0 ≤ n ∧ n < 0x110000 then .ok (Char.ofNat n.toNat)
          else .error .characterOutOfRange
      | none => .error .characterRequired

/-- Format an argument as a conversion letter says. -/
def convert (letter : Char) (index : Nat) (flags : Flags) (precision : Option Nat) (a : Argument) :
    Except TemplateFault Field :=
  let integer (n : Int) : Except TemplateFault Field :=
    if precisionLimit - 3 < precision.getD 0 then .error .precisionTooLarge
    else .ok (integerField letter flags precision n)
  match letter with
  | 's' => .ok (textField precision a.shown)
  | 'r' => .ok (textField precision (a.literal Text.quote))
  | 'a' => .ok (textField precision (a.literal Text.quoteBasic))
  | 'd' | 'i' | 'u' => do integer (← decimalOf letter a)
  | 'o' | 'x' | 'X' =>
      match a.int? with
      | some n => integer n
      | none => .error (.integerRequired letter a.kind)
  | 'e' | 'E' | 'f' | 'F' | 'g' | 'G' => do
      return realField letter flags precision (← realOf a)
  | 'c' => do return ⟨false, false, [], [← characterOf a]⟩
  | _ => .error (.unknownConversion letter index)

/-- The value of an amount and the arguments that remain. A given amount has a sign. -/
def settle (amount : Amount) (limit : Nat) (tooBig outOfRange : TemplateFault)
    (args : List Argument) : Except TemplateFault (Option Int × List Argument) :=
  match amount, args with
  | .absent, args => .ok (none, args)
  | .number n, args => .ok (some n, args)
  | .tooBig, _ => .error tooBig
  | .argument, [] => .error .missingArgument
  | .argument, a :: rest =>
      match a.int? with
      | none => .error .widthNotInteger
      | some n =>
          if -(limit : Int) - 1 ≤ n ∧ n ≤ limit then .ok (some n, rest) else .error outOfRange

/-- Fill a directive; the arguments that it leaves remain. -/
def fillDirective (d : Directive) (index : Nat) (args : List Argument) :
    Except TemplateFault (List Char × List Argument) := do
  let (width, args) ← settle d.width widthLimit .widthTooBig .widthOutOfRange args
  let (precision, args) ←
    settle d.precision precisionLimit .precisionTooBig .precisionOutOfRange args
  match d.letter with
  | none => throw .incomplete
  | some letter =>
      match args with
      | [] => throw .missingArgument
      | a :: rest =>
          let width := width.getD 0
          let flags := { d.flags with left := d.flags.left || width < 0 }
          let field ← convert letter index flags (precision.map Int.toNat) a
          return (pad flags width.natAbs field, rest)

/-- Fill the pieces of a template. All arguments have to be used. -/
def fillPieces : List Piece → List Argument → Except TemplateFault (List Char)
  | [], [] => .ok []
  | [], _ :: _ => .error .unusedArgument
  | .plain c :: rest, args => do return c :: (← fillPieces rest args)
  | .named :: _, _ => .error .namedArgument
  | .directive d index :: rest, args => do
      let (text, left) ← fillDirective d index args
      return text ++ (← fillPieces rest left)

/-- Fill a template with arguments. -/
def fill (template : String) (args : List Argument) : Except TemplateFault String :=
  (fillPieces (pieces template) args).map String.ofList

/-- A line given by a template. Without arguments the template is the line. -/
def line (template : String) (args : List Argument) : Except TemplateFault String :=
  if args.isEmpty then .ok template else fill template args

end Template

end RubyClasses
