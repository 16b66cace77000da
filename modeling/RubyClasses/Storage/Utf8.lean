import RubyClasses.Text.Quoted

/-! # Text files

Files hold bytes. A text is written in UTF-8 and read strictly: a byte that starts no character, a
byte that does not continue one, and an end inside a character are faults. Reading also turns every
kind of line end into a line feed.
-/

namespace RubyClasses

/-- What is wrong with the encoding of a text. -/
inductive EncodingFault where
  | start
  | continuation
  | truncated
  deriving DecidableEq, Repr

/-- Bytes that cannot be decoded. -/
structure DecodeFault where
  fault : EncodingFault
  /-- The position of the first of the bytes. -/
  position : Nat
  /-- The bytes that are given up together. -/
  bytes : List UInt8
  deriving DecidableEq, Repr

/-- The description of a fault. -/
def DecodeFault.message (f : DecodeFault) : String :=
  let reason :=
    match f.fault with
    | .start => "invalid start byte"
    | .continuation => "invalid continuation byte"
    | .truncated => "unexpected end of data"
  let place :=
    match f.bytes with
    | [b] => "byte 0x" ++ String.ofList (Text.hexDigits 2 b.toNat) ++ s!" in position {f.position}"
    | bytes => s!"bytes in position {f.position}-{f.position + bytes.length - 1}"
  "'utf-8' codec can't decode " ++ place ++ ": " ++ reason

namespace Utf8

/-- The bytes that may follow the first byte of a character: none when the byte starts no
character, else a range for each. The range of the second byte keeps out long forms, surrogates
and numbers that are too large. -/
def continuations (b : UInt8) : Option (List (UInt8 × UInt8)) :=
  let any : UInt8 × UInt8 := (0x80, 0xbf)
  if b < 0x80 then some []
  else if b < 0xc2 then none
  else if b < 0xe0 then some [any]
  else if b = 0xe0 then some [(0xa0, 0xbf), any]
  else if b = 0xed then some [(0x80, 0x9f), any]
  else if b < 0xf0 then some [any, any]
  else if b = 0xf0 then some [(0x90, 0xbf), any, any]
  else if b < 0xf4 then some [any, any, any]
  else if b = 0xf4 then some [(0x80, 0x8f), any, any]
  else none

/-- The bits that the first byte of a character contributes, with `more` bytes to follow. -/
def leadingBits (b : UInt8) (more : Nat) : Nat :=
  match more with
  | 0 => b.toNat
  | 1 => b.toNat % 32
  | 2 => b.toNat % 16
  | _ => b.toNat % 8

/-- Read the continuation of a character: the number it spells and the number of bytes taken, or
the fault and how many of the bytes are sound. -/
def readContinuation (bits taken : Nat) :
    List (UInt8 × UInt8) → List UInt8 → Except (EncodingFault × Nat) Nat
  | [], _ => .ok bits
  | _ :: _, [] => .error (.truncated, taken)
  | (low, high) :: ranges, b :: rest =>
      if low ≤ b ∧ b ≤ high then
        readContinuation (bits * 64 + b.toNat % 64) (taken + 1) ranges rest
      else .error (.continuation, taken)

/-- Decode bytes from a position on. -/
def decodeFrom (position : Nat) (bytes : List UInt8) : Except DecodeFault (List Char) :=
  match bytes with
  | [] => .ok []
  | b :: rest =>
      match continuations b with
      | none => .error ⟨.start, position, [b]⟩
      | some ranges =>
          match readContinuation (leadingBits b ranges.length) 1 ranges rest with
          | .error (fault, taken) => .error ⟨fault, position, (b :: rest).take taken⟩
          | .ok code =>
              (decodeFrom (position + 1 + ranges.length) (rest.drop ranges.length)).map
                (Char.ofNat code :: ·)
  termination_by bytes.length
  decreasing_by simp only [List.length_drop, List.length_cons]; omega

/-- Turn all line ends into line feeds. -/
def joinLineEnds : List Char → List Char
  | '\r' :: '\n' :: rest => '\n' :: joinLineEnds rest
  | '\r' :: rest => '\n' :: joinLineEnds rest
  | c :: rest => c :: joinLineEnds rest
  | [] => []

/-- The text in a file. -/
def decode (content : ByteArray) : Except DecodeFault String :=
  (decodeFrom 0 content.toList).map fun cs => String.ofList (joinLineEnds cs)

end Utf8

end RubyClasses
