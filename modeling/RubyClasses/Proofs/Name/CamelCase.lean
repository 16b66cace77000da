import RubyClasses.Proofs.Name.ClassNames
import RubyClasses.Proofs.Name.Words

/-! # Reading class names

A class name is cut into words where its case changes, like any other text. Whether it is cut
between two words of the name that it was made of depends on these two words only: the second one
has to start with a letter, since a digit stays with the word in front of it, and behind a single
letter it has to go on with a letter, since a capital stays with the capitals and digits around it.
So a class name is read as its name exactly when the class name is cut between all neighbours.
-/

namespace RubyClasses.Name

/-- A word has a letter at a position. -/
def HasLetterAt (word : String) (position : Nat) : Prop :=
  word.toList[position]?.any Char.isAlpha = true

instance (word : String) (position : Nat) : Decidable (HasLetterAt word position) :=
  inferInstanceAs (Decidable (_ = _))

/-- Two words in a row stay apart when they are capitalized and joined. -/
structure StayApart (word next : String) : Prop where
  starts : HasLetterAt next 0
  continues : word.length = 1 → HasLetterAt word 0 → HasLetterAt next 1

instance (word next : String) : Decidable (StayApart word next) :=
  decidable_of_iff
    (HasLetterAt next 0 ∧ (word.length = 1 → HasLetterAt word 0 → HasLetterAt next 1))
    ⟨fun h => ⟨h.1, h.2⟩, fun h => ⟨h.starts, h.continues⟩⟩

/-- Small letters are letters, their capitals are no small letters, and digits are neither. -/
theorem kinds_of_isSmallOrDigit {c : Char} (h : isSmallOrDigit c = true) :
    c.isAlpha = !c.isDigit ∧ c.isLower = !c.isDigit ∧ c.toUpper.isLower = false ∧
      isSmallOrDigit c.toUpper = c.isDigit :=
  of_isWordChar (P := fun c => isSmallOrDigit c = true → c.isAlpha = !c.isDigit ∧
    c.isLower = !c.isDigit ∧ c.toUpper.isLower = false ∧ isSmallOrDigit c.toUpper = c.isDigit)
    (by decide +kernel) (isWordChar_of_isSmallOrDigit h) h

section FirstWord

variable {c d e : Char} {rest : List Char}

/-- A word that starts with a digit, or goes on with a small letter or a digit, goes on as long as
these do. -/
theorem firstWordLength_of_small
    (h : c.isUpper = false ∨ ∃ d ds, rest = d :: ds ∧ isSmallOrDigit d = true) :
    firstWordLength c rest = 1 + (rest.takeWhile isSmallOrDigit).length := by
  unfold firstWordLength
  split
  next hupper =>
    rcases h with hlower | ⟨d, ds, rfl, hd⟩
    · rw [hupper] at hlower
      cases hlower
    · have hnot := isUpper_eq_false_of_isSmallOrDigit hd
      simp [hnot]
  next => rfl

/-- A capital is a word before a capital with a small letter behind it. -/
theorem firstWordLength_of_capital (hc : c.isUpper = true) (hd : d.isUpper = true)
    (he : e.isLower = true) : firstWordLength c (d :: e :: rest) = 1 := by
  have hupper : e.isUpper = false :=
    isUpper_eq_false_of_isSmallOrDigit (by simp [isSmallOrDigit, he])
  simp [firstWordLength, hc, hd, he, hupper]

/-- A capital before any other capital is no word. -/
theorem one_lt_firstWordLength (hc : c.isUpper = true) (hd : d.isUpper = true)
    (hrest : ∀ e es, rest = e :: es → e.isLower = false) :
    1 < firstWordLength c (d :: rest) := by
  unfold firstWordLength
  rw [if_pos hc, List.takeWhile_cons_of_pos hd, List.dropWhile_cons_of_pos hd]
  dsimp only
  split
  next e es hdrop =>
    rw [if_neg (List.cons_ne_nil d _)]
    split
    next he =>
      -- a small letter further on has one more capital in front of it
      cases rest with
      | nil => simp at hdrop
      | cons first more =>
          cases hfirst : first.isUpper with
          | true => simp [hfirst]
          | false =>
              rw [List.dropWhile_cons_of_neg (by simp [hfirst])] at hdrop
              cases hdrop
              rw [hrest _ _ rfl] at he
              cases he
    next =>
      rw [List.takeWhile_cons_of_pos (by simp [isCapitalOrDigit, hd]), List.length_cons]
      omega
  next =>
    rw [List.length_cons]
    omega

end FirstWord

section Cuts

variable {word next : String} {rest : List String} {c : Char} {cs : List Char}

theorem hasLetterAt_zero_iff (hchars : word.toList = c :: cs) :
    HasLetterAt word 0 ↔ c.isAlpha = true := by
  simp [HasLetterAt, hchars]

theorem hasLetterAt_one_iff (hchars : word.toList = c :: cs) :
    HasLetterAt word 1 ↔ ∃ d ds, cs = d :: ds ∧ d.isAlpha = true := by
  cases cs <;> simp [HasLetterAt, hchars]

theorem length_eq_of_toList (hchars : word.toList = c :: cs) : word.length = cs.length + 1 := by
  rw [← String.length_toList, hchars, List.length_cons]

/-- What follows a word that is no single letter belongs to it as far as small letters and digits
go. -/
theorem firstWordLength_of_not_single (hword : IsProperWord word) (hchars : word.toList = c :: cs)
    (hsingle : ¬ (c.isAlpha = true ∧ cs = [])) (tail : List Char) :
    firstWordLength c.toUpper (cs ++ tail) =
      word.length + (tail.takeWhile isSmallOrDigit).length := by
  have hsmall : ∀ d ∈ c :: cs, isSmallOrDigit d = true := hchars ▸ hword.isSmallOrDigit
  have hc := hsmall c List.mem_cons_self
  have hcs : ∀ d ∈ cs, isSmallOrDigit d = true := fun d hd => hsmall d (List.mem_cons_of_mem _ hd)
  rw [firstWordLength_of_small, List.takeWhile_append_of_pos hcs, List.length_append,
    length_eq_of_toList hchars]
  · omega
  · rw [(toUpper_of_isSmallOrDigit hc).1, ← (kinds_of_isSmallOrDigit hc).1]
    cases cs with
    | nil => exact .inl (by simpa using hsingle)
    | cons d ds => exact .inr ⟨d, ds ++ tail, rfl, hcs d List.mem_cons_self⟩

/-- The last word of a name is cut off whole. -/
theorem firstWordLength_last (hword : IsProperWord word) (hchars : word.toList = c :: cs) :
    firstWordLength c.toUpper cs = word.length := by
  by_cases hsingle : c.isAlpha = true ∧ cs = []
  · obtain ⟨-, rfl⟩ := hsingle
    simp [firstWordLength, length_eq_of_toList hchars]
  · simpa using firstWordLength_of_not_single hword hchars hsingle []

/-- A word that stays apart from the next one is cut off whole. -/
theorem StayApart.firstWordLength_eq (h : StayApart word next) (hword : IsProperWord word)
    (hnext : IsProperWord next) (hchars : word.toList = c :: cs) :
    firstWordLength c.toUpper (cs ++ capitals (next :: rest)) = word.length := by
  obtain ⟨d, ds, hchars', hd, hds⟩ := hnext.exists_cons
  obtain ⟨halpha, -, -, hsmall⟩ := kinds_of_isSmallOrDigit hd
  have hletter := (hasLetterAt_zero_iff hchars').mp h.starts
  have hdigit : d.isDigit = false := by simpa [halpha] using hletter
  rw [capitals_cons hnext hchars']
  by_cases hsingle : c.isAlpha = true ∧ cs = []
  · obtain ⟨hc, rfl⟩ := hsingle
    have hlength : word.length = 1 := length_eq_of_toList hchars
    obtain ⟨e, es, rfl, he⟩ := (hasLetterAt_one_iff hchars').mp
      (h.continues hlength ((hasLetterAt_zero_iff hchars).mpr hc))
    have hcsmall := hword.isSmallOrDigit c (by simp [hchars])
    have hesmall := hds e List.mem_cons_self
    rw [hlength, List.nil_append, List.cons_append]
    apply firstWordLength_of_capital
    · rw [(toUpper_of_isSmallOrDigit hcsmall).1, ← (kinds_of_isSmallOrDigit hcsmall).1, hc]
    · rw [(toUpper_of_isSmallOrDigit hd).1, hdigit, Bool.not_false]
    · rw [(kinds_of_isSmallOrDigit hesmall).2.1, ← (kinds_of_isSmallOrDigit hesmall).1, he]
  · rw [firstWordLength_of_not_single hword hchars hsingle,
      List.takeWhile_cons_of_neg (by simp [hsmall, hdigit]), List.length_nil, Nat.add_zero]

/-- What follows the first letter of a word in a class name is no small letter unless it is the
second letter of the word. -/
theorem isLower_eq_false_of_capitals (hrest : ∀ other ∈ rest, IsProperWord other)
    (hcs : ∀ d ∈ cs, isSmallOrDigit d = true)
    (hnone : ¬ ∃ d ds, cs = d :: ds ∧ d.isAlpha = true) (e : Char) (es : List Char)
    (heq : cs ++ capitals rest = e :: es) : e.isLower = false := by
  cases cs with
  | cons d ds =>
      cases heq
      have hkinds := kinds_of_isSmallOrDigit (hcs e List.mem_cons_self)
      rw [hkinds.2.1, ← hkinds.1]
      simpa using hnone
  | nil =>
      cases rest with
      | nil => cases heq
      | cons other rest =>
          have hother := hrest other List.mem_cons_self
          obtain ⟨d, ds, hchars, hd, -⟩ := hother.exists_cons
          rw [capitals_cons hother hchars] at heq
          cases heq
          exact (kinds_of_isSmallOrDigit hd).2.2.1

/-- A word that does not stay apart from the next one is not cut off there. -/
theorem length_lt_firstWordLength (h : ¬ StayApart word next) (hword : IsProperWord word)
    (hnext : IsProperWord next) (hrest : ∀ other ∈ rest, IsProperWord other)
    (hchars : word.toList = c :: cs) :
    word.length < firstWordLength c.toUpper (cs ++ capitals (next :: rest)) := by
  obtain ⟨d, ds, hchars', hd, hds⟩ := hnext.exists_cons
  obtain ⟨halpha, -, -, hsmall⟩ := kinds_of_isSmallOrDigit hd
  rw [capitals_cons hnext hchars']
  cases hdigit : d.isDigit with
  | true =>
      -- a digit stays with the word, whether this is a single letter or not
      rw [hdigit] at hsmall
      by_cases hsingle : c.isAlpha = true ∧ cs = []
      · obtain ⟨-, rfl⟩ := hsingle
        rw [List.nil_append, firstWordLength_of_small (.inr ⟨_, _, rfl, hsmall⟩),
          List.takeWhile_cons_of_pos hsmall, List.length_cons, length_eq_of_toList hchars,
          List.length_nil]
        omega
      · rw [firstWordLength_of_not_single hword hchars hsingle,
          List.takeWhile_cons_of_pos hsmall, List.length_cons]
        omega
  | false =>
      have hstarts : HasLetterAt next 0 :=
        (hasLetterAt_zero_iff hchars').mpr (by rw [halpha, hdigit, Bool.not_false])
      have hcontinues : ¬ (word.length = 1 → HasLetterAt word 0 → HasLetterAt next 1) :=
        fun hcontinues => h ⟨hstarts, hcontinues⟩
      push Not at hcontinues
      obtain ⟨hlength, hletter, hnone⟩ := hcontinues
      obtain rfl : cs = [] := by
        rw [length_eq_of_toList hchars] at hlength
        exact List.length_eq_zero_iff.mp (by omega)
      rw [hasLetterAt_zero_iff hchars] at hletter
      rw [hasLetterAt_one_iff hchars'] at hnone
      have hc := hword.isSmallOrDigit c (by simp [hchars])
      rw [hlength, List.nil_append]
      apply one_lt_firstWordLength
      · rw [(toUpper_of_isSmallOrDigit hc).1, ← (kinds_of_isSmallOrDigit hc).1, hletter]
      · rw [(toUpper_of_isSmallOrDigit hd).1, hdigit, Bool.not_false]
      · exact isLower_eq_false_of_capitals hrest hds hnone

end Cuts

/-- A word in small letters. -/
def lowered (word : List Char) : String := String.ofList (word.map Char.toLower)

theorem lowered_capitalized {word : String} (h : IsProperWord word) {c : Char} {cs : List Char}
    (hchars : word.toList = c :: cs) : lowered (c.toUpper :: cs) = word := by
  have hsmall : ∀ d ∈ c :: cs, isSmallOrDigit d = true := hchars ▸ h.isSmallOrDigit
  have hcs : cs.map Char.toLower = cs :=
    map_eq_self fun d hd => toLower_of_isSmallOrDigit (hsmall d (List.mem_cons_of_mem _ hd))
  rw [lowered, List.map_cons, toLower_toUpper_of_isSmallOrDigit (hsmall c List.mem_cons_self), hcs,
    ← hchars, String.ofList_toList]

/-- A word that is cut off whole leaves the others to be cut. -/
theorem splitRun_capitals_cons {word : String} {rest : List String} (h : IsProperWord word)
    {c : Char} {cs : List Char} (hchars : word.toList = c :: cs)
    (hcut : firstWordLength c.toUpper (cs ++ capitals rest) = word.length) :
    (splitRun (capitals (word :: rest))).map lowered =
      word :: (splitRun (capitals rest)).map lowered := by
  have hlength : word.length = (c.toUpper :: cs).length := length_eq_of_toList hchars
  rw [capitals_cons h hchars, splitRun, hcut, hlength, ← List.cons_append, List.take_left,
    List.drop_left, List.map_cons, lowered_capitalized h hchars]

/-- Capitalized words are cut into themselves exactly when all neighbours stay apart. -/
theorem splitRun_capitals_iff {words : List String} (h : ∀ word ∈ words, IsProperWord word) :
    (splitRun (capitals words)).map lowered = words ↔ words.IsChain StayApart := by
  induction words with
  | nil => simp [capitals, splitRun]
  | cons word rest ih =>
      have hword := h word List.mem_cons_self
      have hrest : ∀ other ∈ rest, IsProperWord other :=
        fun other hother => h other (List.mem_cons_of_mem _ hother)
      have ih := ih hrest
      obtain ⟨c, cs, hchars, -, -⟩ := hword.exists_cons
      cases rest with
      | nil =>
          have hcut := firstWordLength_last hword hchars
          rw [splitRun_capitals_cons hword hchars (by simpa [capitals] using hcut),
            List.cons_inj_right]
          simpa using ih
      | cons next rest =>
          have hnext := hrest next List.mem_cons_self
          rw [List.isChain_cons_cons]
          by_cases hapart : StayApart word next
          · have hcut : firstWordLength c.toUpper (cs ++ capitals (next :: rest)) = word.length :=
              hapart.firstWordLength_eq hword hnext hchars
            rw [splitRun_capitals_cons hword hchars hcut, List.cons_inj_right, ih]
            exact (and_iff_right hapart).symm
          · refine iff_of_false ?_ (fun hchain => hapart hchain.1)
            intro heq
            have hcut := length_lt_firstWordLength hapart hword hnext
              (fun other hother => hrest other (List.mem_cons_of_mem _ hother)) hchars
            rw [capitals_cons hword hchars, splitRun, List.map_cons] at heq
            have hfirst := congrArg String.length (List.cons.inj heq).1
            obtain ⟨d, ds, hchars', -, -⟩ := hnext.exists_cons
            have hlength := length_eq_of_toList hchars
            rw [lowered, String.length_ofList, List.length_map, List.length_take,
              List.length_cons, List.length_append, capitals_cons hnext hchars',
              List.length_cons] at hfirst
            rw [capitals_cons hnext hchars'] at hcut
            omega

/-- Letters and digits only are one run. -/
theorem runs_of_isWordChar {cs : List Char} (hne : cs ≠ [])
    (h : ∀ c ∈ cs, isWordChar c = true) : runs cs = [cs] := by
  rw [runs, Text.partsBetween_eq_singleton fun c hc => by simp [h c hc]]
  simpa using hne

theorem wordsOf_run {cs : List Char} (hne : cs ≠ []) (h : ∀ c ∈ cs, isWordChar c = true) :
    wordsOf cs = (splitRun cs).map lowered := by
  rw [wordsOf, runs_of_isWordChar hne h, List.flatMap_singleton]
  rfl

theorem wordsOf_className {name : Name} (h : name.IsProper) :
    wordsOf name.className.toList = (splitRun (capitals name.words)).map lowered := by
  have hne : name.className.toList ≠ [] := by
    obtain ⟨word, rest, hwords⟩ := List.exists_cons_of_ne_nil h.words_ne_nil
    have hword : IsProperWord word := h.isProperWord (by simp [hwords])
    obtain ⟨c, cs, hchars, -, -⟩ := hword.exists_cons
    rw [className_toList, hwords, capitals_cons hword hchars]
    exact List.cons_ne_nil _ _
  rw [wordsOf_run hne fun c hc => h.isWordChar_className hc, className_toList]

theorem ofText?_eq_some_iff {text : String} {name : Name} (h : name.words ≠ []) :
    ofText? text = some name ↔ wordsOf text.toList = name.words := by
  obtain ⟨words⟩ := name
  unfold ofText?
  split
  next hnil => simpa [hnil] using h.symm
  next => simp

/-- Neighbours stay apart when every word but the first starts with a letter and every single
letter is followed by two letters. -/
theorem isChain_stayApart_iff {words : List String} :
    words.IsChain StayApart ↔ (∀ word ∈ words.tail, HasLetterAt word 0) ∧
      ∀ index word next, words[index]? = some word → words[index + 1]? = some next →
        word.length = 1 → HasLetterAt word 0 → HasLetterAt next 1 := by
  rw [List.isChain_iff_getElem]
  constructor
  · intro hchain
    refine ⟨?_, ?_⟩
    · intro word hword
      obtain ⟨index, hindex⟩ := List.getElem?_of_mem hword
      rw [List.getElem?_tail] at hindex
      obtain ⟨hbound, rfl⟩ := List.getElem?_eq_some_iff.mp hindex
      exact (hchain index hbound).starts
    · intro index word next hword hnext
      obtain ⟨-, rfl⟩ := List.getElem?_eq_some_iff.mp hword
      obtain ⟨hbound, rfl⟩ := List.getElem?_eq_some_iff.mp hnext
      exact (hchain index hbound).continues
  · rintro ⟨hstarts, hcontinues⟩ index hbound
    refine ⟨hstarts _ ?_, hcontinues index _ _ (List.getElem?_eq_getElem _)
      (List.getElem?_eq_getElem hbound)⟩
    apply List.mem_of_getElem? (i := index)
    rw [List.getElem?_tail]
    exact List.getElem?_eq_getElem hbound

/-- A class name is read as the name that it was made of exactly when every word of the name but the
first starts with a letter, and every single letter but the last word is followed by a word whose
second character is a letter, too. -/
theorem ofText?_className_iff {text : String} {name : Name} (h : ofText? text = some name) :
    ofText? name.className = some name ↔ (∀ word ∈ name.words.tail, HasLetterAt word 0) ∧
      ∀ index word next, name.words[index]? = some word → name.words[index + 1]? = some next →
        word.length = 1 → HasLetterAt word 0 → HasLetterAt next 1 := by
  have hproper := isProper_of_ofText? h
  rw [ofText?_eq_some_iff hproper.words_ne_nil, wordsOf_className hproper,
    splitRun_capitals_iff fun _ hword => hproper.isProperWord hword, isChain_stayApart_iff]

/-- Single letters are kept where letters follow them, and lost where none do. -/
theorem ofText?_className_iff_mapXAxis :
    (ofText? "map_x_axis2" = some ⟨["map", "x", "axis2"]⟩ ∧
      ofText? (Name.mk ["map", "x", "axis2"]).className = some ⟨["map", "x", "axis2"]⟩) ∧
    (ofText? "map_x_2axis" = some ⟨["map", "x", "2axis"]⟩ ∧
      ofText? (Name.mk ["map", "x", "2axis"]).className ≠ some ⟨["map", "x", "2axis"]⟩) ∧
    ofText? "map_x_y" = some ⟨["map", "x", "y"]⟩ ∧
      ofText? (Name.mk ["map", "x", "y"]).className ≠ some ⟨["map", "x", "y"]⟩ := by
  have haxis : ofText? "map_x_axis2" = some ⟨["map", "x", "axis2"]⟩ := by decide +kernel
  have hdigit : ofText? "map_x_2axis" = some ⟨["map", "x", "2axis"]⟩ := by decide +kernel
  have hsingle : ofText? "map_x_y" = some ⟨["map", "x", "y"]⟩ := by decide +kernel
  refine ⟨⟨haxis, (ofText?_className_iff haxis).mpr ?_⟩, ⟨hdigit, ?_⟩, hsingle, ?_⟩
  · exact isChain_stayApart_iff.mp (by decide +kernel)
  · rw [ne_eq, ofText?_className_iff hdigit]
    exact fun h => absurd (h.1 "2axis" (by simp)) (by decide +kernel)
  · rw [ne_eq, ofText?_className_iff hsingle]
    exact fun h => absurd (h.2 1 "x" "y" rfl rfl (by decide) (by decide +kernel))
      (by decide +kernel)

end RubyClasses.Name
