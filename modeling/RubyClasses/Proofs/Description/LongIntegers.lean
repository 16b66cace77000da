import Mathlib.Data.List.TakeWhile
import RubyClasses.Model.Description
import RubyClasses.Storage.Utf8

/-! # Long integers

The whole part of a number has a limit of 4300 digits. A text that is one longer run of digits is
refused with a fault of its own. Digits are bytes below 128, so a file of them holds such a text.
-/

namespace RubyClasses

namespace Json

section Digits

variable {c : Char} {digits : List Char}

theorem ne_of_isDigit (hc : c.isDigit = true) {other : Char} (hother : other.isDigit = false) :
    c ≠ other := by
  rintro rfl
  rw [hc] at hother
  cases hother

theorem exists_head_of_mem_wordValues {entry : String × Value} (h : entry ∈ wordValues) :
    ∃ d rest, entry.1.toList = d :: rest ∧ d.isDigit = false := by
  simp only [wordValues, List.mem_cons, List.not_mem_nil, or_false] at h
  rcases h with rfl | rfl | rfl | rfl | rfl | rfl
  all_goals exact ⟨_, _, rfl, rfl⟩

/-- No word begins with a digit. -/
theorem readWord?_cons_of_isDigit (hc : c.isDigit = true) (rest : List Char) :
    readWord? (c :: rest) = none := by
  unfold readWord?
  rw [List.findSome?_eq_none_iff]
  intro entry hentry
  obtain ⟨d, others, hchars, hd⟩ := exists_head_of_mem_wordValues hentry
  have hne := ne_of_isDigit hc hd
  dsimp only
  rw [hchars, if_neg]
  simp [hne.symm]

/-- A run of too many digits is refused as a number, and the fault tells how many there are. -/
theorem readNumber_long (start : List Char) (negative : Bool)
    (hdigits : ∀ d ∈ digits, d.isDigit = true) (hzero : digits.head? ≠ some '0')
    (hlong : integerDigitLimit < digits.length) :
    readNumber start negative digits = .error (.longInteger digits.length) := by
  have hwhole : wholeDigits digits = digits := by
    unfold wholeDigits
    split
    next => simp at hzero
    next => exact List.takeWhile_eq_self_iff.mpr hdigits
  have hne : digits ≠ [] := by
    rintro rfl
    simp [integerDigitLimit] at hlong
  unfold readNumber
  simp [hwhole, hne, readFraction, readExponent, hlong]

theorem readValue_of_isDigit (hc : c.isDigit = true) (fuel : Nat) (rest : List Char) :
    readValue (fuel + 1) (c :: rest) = readNumber (c :: rest) false (c :: rest) := by
  have hscalar : readScalar (c :: rest) = readNumber (c :: rest) false (c :: rest) := by
    unfold readScalar
    rw [readWord?_cons_of_isDigit hc]
    dsimp only
    split
    next heq =>
      cases heq
      cases hc
    next => rfl
  unfold readValue
  split
  case h_4 => exact hscalar
  all_goals
    rename_i heq
    cases heq
    cases hc

/-- A text that is one long run of digits is not read. -/
theorem readDocument_long (hdigits : ∀ d ∈ digits, d.isDigit = true)
    (hzero : digits.head? ≠ some '0') (hlong : integerDigitLimit < digits.length) :
    readDocument digits = .error (.longInteger digits.length) := by
  have hnumber := readNumber_long digits false hdigits hzero hlong
  cases digits with
  | nil => simp [integerDigitLimit] at hlong
  | cons c rest =>
      have hc := hdigits c List.mem_cons_self
      have hspace : skipSpace (c :: rest) = c :: rest := by
        have hblanks : isSpace c = false := by
          simp only [isSpace, Bool.or_eq_false_iff, beq_eq_false_iff_ne]
          exact ⟨⟨⟨ne_of_isDigit hc (by decide), ne_of_isDigit hc (by decide)⟩,
            ne_of_isDigit hc (by decide)⟩, ne_of_isDigit hc (by decide)⟩
        simp [skipSpace, hblanks]
      have hmark : (c :: rest).head? ≠ some '\ufeff' := by
        simpa using ne_of_isDigit hc (by decide)
      rw [readDocument, if_neg hmark, hspace, readValue_of_isDigit hc, hnumber]

end Digits

end Json

namespace Utf8

theorem toList_loop_eq (bytes : ByteArray) (i : Nat) (earlier : List UInt8) :
    ByteArray.toList.loop bytes i earlier = earlier.reverse ++ bytes.data.toList.drop i := by
  fun_induction ByteArray.toList.loop bytes i earlier with
  | case1 i earlier hlt ih =>
      have hi : i < bytes.data.toList.length := by simpa using hlt
      have hget : bytes.get! i = bytes.data.toList[i] := getElem!_pos bytes.data i hlt
      rw [ih, List.drop_eq_getElem_cons hi, hget]
      simp
  | case2 i earlier hge =>
      have hi : bytes.data.toList.length ≤ i := by simpa using hge
      simp [List.drop_eq_nil_of_le hi]

/-- Bytes below 128 are characters. -/
theorem decodeFrom_latin (position : Nat) {bytes : List UInt8} (h : ∀ b ∈ bytes, b < 0x80) :
    decodeFrom position bytes = .ok (bytes.map fun b => Char.ofNat b.toNat) := by
  induction bytes generalizing position with
  | nil => simp [decodeFrom]
  | cons b rest ih =>
      obtain ⟨hb, hrest⟩ := List.forall_mem_cons.mp h
      have hcontinue : continuations b = some [] := if_pos hb
      unfold decodeFrom
      simp [hcontinue, readContinuation, leadingBits, ih _ hrest, Except.map]

theorem joinLineEnds_eq_self {cs : List Char} (h : '\r' ∉ cs) : joinLineEnds cs = cs := by
  fun_induction joinLineEnds cs with
  | case1 => simp at h
  | case2 => simp at h
  | case3 c rest _ _ ih => rw [ih fun hmem => h (List.mem_cons_of_mem _ hmem)]
  | case4 => rfl

/-- A file of bytes below 128 without carriage returns holds the characters of these bytes. -/
theorem decode_latin {bytes : List UInt8} (h : ∀ b ∈ bytes, b < 0x80)
    (hends : '\r' ∉ bytes.map fun b => Char.ofNat b.toNat) :
    decode ⟨bytes.toArray⟩ = .ok (String.ofList (bytes.map fun b => Char.ofNat b.toNat)) := by
  have hlist : ByteArray.toList ⟨bytes.toArray⟩ = bytes := by
    rw [ByteArray.toList, toList_loop_eq]
    simp
  rw [decode, hlist, decodeFrom_latin 0 h]
  simp [Except.map, joinLineEnds_eq_self hends]

end Utf8

/-- A text of that many ones. -/
def ones (count : Nat) : String := String.ofList (List.replicate count '1')

theorem ofText_ones {count : Nat} (hlong : Json.integerDigitLimit < count) :
    Model.ofText (ones count) = .error (.longInteger count) := by
  have hdigits : ∀ d ∈ List.replicate count '1', d.isDigit = true := by simp
  have hzero : (List.replicate count '1').head? ≠ some '0' := by
    rw [List.head?_replicate]
    split <;> simp
  have hread := Json.readDocument_long hdigits hzero (by simpa using hlong)
  simp [Model.ofText, ones, hread]

theorem decode_ones (count : Nat) :
    Utf8.decode ⟨Array.replicate count 0x31⟩ = .ok (ones count) := by
  have hlatin : ∀ b ∈ List.replicate count (0x31 : UInt8), b < 0x80 := by simp
  have hdecode := Utf8.decode_latin hlatin (by simp)
  simpa [ones] using hdecode

end RubyClasses
