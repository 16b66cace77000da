import RubyClasses.Proofs.Name.Pattern

/-! # Separators between words

A text is cut at blanks, underscores and dashes, and the pattern of words passes over all other
symbols that are neither letters nor digits. Either way such a symbol separates words, whatever
stands around it: what is in front of it is cut into words without regard to what is behind it. So
it does not matter which separators a text has between its words, or how many of them, or whether it
has some at its ends.
-/

namespace RubyClasses.Name

theorem wordsOf_append_cons {c : Char} (hc : isWordChar c = false) (front back : List Char) :
    wordsOf (front ++ c :: back) = wordsOf front ++ wordsOf back := by
  simp only [wordsOf_eq_matchesIn, matchesIn_append_cons hc, List.map_append]

theorem wordsOf_nil : wordsOf [] = [] := rfl

/-- Separators at the ends of a text leave its words as they are. -/
theorem wordsOf_between {before after : List Char}
    (h : ∀ c ∈ before ++ after, isWordChar c = false) (cs : List Char) :
    wordsOf (before ++ cs ++ after) = wordsOf cs := by
  induction before with
  | nil =>
      cases after with
      | nil => rw [List.nil_append, List.append_nil]
      | cons c rest =>
          have hrest : wordsOf rest = [] :=
            wordsOf_eq_nil_iff.mpr fun d hd => h d (List.mem_cons_of_mem c hd)
          rw [List.nil_append, wordsOf_append_cons (h c List.mem_cons_self), hrest, List.append_nil]
  | cons c rest ih =>
      have hfront := wordsOf_append_cons (h c List.mem_cons_self) [] (rest ++ cs ++ after)
      rw [wordsOf_nil, List.nil_append, List.nil_append] at hfront
      rw [List.cons_append, List.cons_append, hfront]
      exact ih fun d hd => h d (List.mem_cons_of_mem c hd)

/-- Words joined by a separator are read one by one. -/
theorem wordsOf_intercalate {c : Char} (hc : isWordChar c = false) (parts : List (List Char)) :
    wordsOf ([c].intercalate parts) = parts.flatMap wordsOf := by
  induction parts with
  | nil => rfl
  | cons part rest ih =>
      cases rest with
      | nil => simp
      | cons next rest =>
          rw [List.intercalate_cons_cons, List.append_assoc, List.singleton_append,
            wordsOf_append_cons hc, ih]
          exact List.flatMap_cons.symm

/-- The words that a text spells; none when it spells no name. -/
def wordsIn (t : Text) : List String := ((ofText? t.toString).map words).getD []

theorem wordsIn_eq (t : Text) : wordsIn t = wordsOf t.toChars := by
  have hchars : t.toString.toList = t.toChars := String.toList_ofList
  unfold wordsIn ofText?
  rw [hchars]
  split
  next hnil => exact hnil.symm
  next => rfl

/-- A text is spelled by parts when it has them in order, and besides them only symbols that are
neither letters nor digits: at least one between two parts, and any number of them anywhere between
the parts and at the ends. -/
inductive IsSpelling : List Text → Text → Prop
  /-- A part alone. -/
  | alone (part : Text) : IsSpelling [part] part
  /-- A part and a separator in front of a text. -/
  | next (part : Text) {separator : Symbol} {parts : List Text} {text : Text}
      (hseparator : separator.isWordChar = false) (htext : IsSpelling parts text) :
      IsSpelling (part :: parts) (part ++ separator :: text)
  /-- A further separator in front of a text. -/
  | ahead {separator : Symbol} {parts : List Text} {text : Text}
      (hseparator : separator.isWordChar = false) (htext : IsSpelling parts text) :
      IsSpelling parts (separator :: text)
  /-- A further separator behind a text. -/
  | behind {separator : Symbol} {parts : List Text} {text : Text}
      (hseparator : separator.isWordChar = false) (htext : IsSpelling parts text) :
      IsSpelling parts (text ++ [separator])

theorem wordsIn_append_cons {separator : Symbol} (h : separator.isWordChar = false)
    (front back : Text) : wordsIn (front ++ separator :: back) = wordsIn front ++ wordsIn back := by
  have hchar : isWordChar separator.toChar = false := by rw [Symbol.isWordChar_toChar, h]
  simp only [wordsIn_eq, Text.toChars, List.map_append, List.map_cons]
  exact wordsOf_append_cons hchar _ _

/-- The words of a text are those of the parts that it is spelled by. -/
theorem IsSpelling.wordsIn_eq {parts : List Text} {text : Text} (h : IsSpelling parts text) :
    wordsIn text = parts.flatMap wordsIn := by
  induction h with
  | alone part => simp
  | next part hseparator htext ih =>
      rw [wordsIn_append_cons hseparator, ih, List.flatMap_cons]
  | ahead hseparator htext ih =>
      rw [← ih]
      exact wordsIn_append_cons hseparator [] _
  | behind hseparator htext ih =>
      rw [wordsIn_append_cons hseparator, ih]
      exact List.append_nil _

theorem ofText?_eq_of_wordsIn_eq {first second : Text} (h : wordsIn first = wordsIn second) :
    ofText? first.toString = ofText? second.toString := by
  rw [wordsIn_eq, wordsIn_eq] at h
  unfold ofText?
  rw [Text.toString, Text.toString, String.toList_ofList, String.toList_ofList, h]

/-- The words of a text are what the pattern finds between blanks, underscores and dashes. But every
symbol that is neither a letter nor a digit separates the words in front of it from those behind it.
So only the parts count that a text is spelled by, and whatever separators it has between them and
at its ends, it spells the same name. -/
theorem wordsIn_separated :
    (∀ text : Text, wordsIn text =
      ((Text.partsBetween isBreak text.toChars).flatMap wordPattern.matchesIn).map lowered) ∧
    (∀ (front back : Text) (separator : Symbol), separator.isWordChar = false →
      wordsIn (front ++ separator :: back) = wordsIn front ++ wordsIn back) ∧
    ∀ (parts : List Text) (first second : Text), IsSpelling parts first →
      IsSpelling parts second →
        wordsIn first = parts.flatMap wordsIn ∧
          ofText? first.toString = ofText? second.toString := by
  refine ⟨?_, fun front back _ h => wordsIn_append_cons h front back, ?_⟩
  · intro text
    rw [wordsIn_eq, wordsOf_eq_matchesIn, flatMap_matchesIn]
  · intro parts first second hfirst hsecond
    have hwords : wordsIn first = parts.flatMap wordsIn := hfirst.wordsIn_eq
    refine ⟨hwords, ofText?_eq_of_wordsIn_eq ?_⟩
    rw [hwords, hsecond.wordsIn_eq]

/-- The words of a name, to be spelled in several ways. -/
def vmStatusParts : List Text := [Text.ofString "vm", Text.ofString "status"]

/-- Snake, dashed and spaced spellings, the latter two with further separators. -/
theorem isSpelling_vmStatusParts :
    IsSpelling vmStatusParts (Text.ofString "vm_status") ∧
      IsSpelling vmStatusParts (Text.ofString "-vm--status") ∧
      IsSpelling vmStatusParts (Text.ofString "vm é\u2003status ") := by
  have hlast := IsSpelling.alone (Text.ofString "status")
  have hsnake : Text.ofString "vm_status" =
      Text.ofString "vm" ++ Symbol.char '_' :: Text.ofString "status" := by decide +kernel
  have hdashed : Text.ofString "-vm--status" = Symbol.char '-' ::
      (Text.ofString "vm" ++ Symbol.char '-' :: Symbol.char '-' :: Text.ofString "status") := by
    decide +kernel
  have hspaced : Text.ofString "vm é\u2003status " = Text.ofString "vm" ++ Symbol.char ' ' ::
      Symbol.char 'é' :: Symbol.char '\u2003' :: (Text.ofString "status" ++ [Symbol.char ' ']) := by
    decide +kernel
  rw [vmStatusParts, hsnake, hdashed, hspaced]
  exact ⟨.next _ rfl hlast, .ahead rfl (.next _ rfl (.ahead rfl hlast)),
    .next _ rfl (.ahead rfl (.ahead rfl (.behind rfl hlast)))⟩

/-- All three spellings give one name. A surrogate that stands alone separates words, too. -/
theorem wordsIn_separated_vmStatusParts :
    wordsIn (Text.ofString "vm_status") = ["vm", "status"] ∧
      ofText? (Text.ofString "vm_status").toString =
        ofText? (Text.ofString "-vm--status").toString ∧
      ofText? (Text.ofString "vm_status").toString =
        ofText? (Text.ofString "vm é\u2003status ").toString ∧
      wordsIn (Text.ofString "vmPool" ++ Symbol.lone 0xd800 :: Text.ofString "ID") =
        ["vm", "pool", "id"] := by
  obtain ⟨hsnake, hdashed, hspaced⟩ := isSpelling_vmStatusParts
  have hdashes := wordsIn_separated.2.2 _ _ _ hsnake hdashed
  have hspaces := wordsIn_separated.2.2 _ _ _ hsnake hspaced
  have hlone := wordsIn_separated.2.1 (Text.ofString "vmPool") (Text.ofString "ID")
    (Symbol.lone 0xd800) rfl
  exact ⟨hdashes.1.trans (by decide +kernel), hdashes.2, hspaces.2,
    hlone.trans (by decide +kernel)⟩

end RubyClasses.Name
