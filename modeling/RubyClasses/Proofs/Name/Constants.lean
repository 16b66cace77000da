import Mathlib.Algebra.BigOperators.Group.List.Basic
import RubyClasses.Proofs.Name.SnakeCase

/-! # Reading constants

A constant is a name in capitals, with the underscores between its words. In capitals a single
letter goes on with digits only, and letters that start a word go on with letters and digits. So a
constant is read as its name unless a word of the name has a letter behind a digit that is its first
or second character, where the word is cut.
-/

namespace RubyClasses.Name

/-- The characters of a word that is one word in capitals, too. -/
inductive StaysWhole : List Char → Prop
  /-- All characters are digits. -/
  | digits {word : List Char} (hdigits : ∀ d ∈ word, d.isDigit = true) : StaysWhole word
  /-- A letter is followed by digits only. -/
  | letter {c : Char} {rest : List Char} (hc : c.isAlpha = true)
      (hdigits : ∀ d ∈ rest, d.isDigit = true) : StaysWhole (c :: rest)
  /-- The first two characters are letters. -/
  | letters {c d : Char} {rest : List Char} (hc : c.isAlpha = true) (hd : d.isAlpha = true) :
      StaysWhole (c :: d :: rest)

/-- A letter stands behind a digit that has one letter in front of it at most. -/
def HasLateLetter (word : List Char) : Prop :=
  ∃ front digit middle letter back, word = front ++ digit :: (middle ++ letter :: back) ∧
    digit.isDigit = true ∧ letter.isAlpha = true ∧ front.countP Char.isAlpha ≤ 1

theorem not_isDigit_of_isAlpha {c : Char} (h : c.isAlpha = true) : ¬ c.isDigit = true :=
  of_isWordChar (P := fun c => c.isAlpha = true → ¬ c.isDigit = true) (by decide +kernel)
    (by simp [isWordChar, Char.isAlphanum, h]) h

theorem isAlpha_of_isDigit_eq_false {c : Char} (hsmall : isSmallOrDigit c = true)
    (h : c.isDigit = false) : c.isAlpha = true := by
  rw [(kinds_of_isSmallOrDigit hsmall).1, h, Bool.not_false]

section Word

variable {c : Char} {cs : List Char}

/-- A word has a digit among its first two characters, or it starts with two letters or is a single
letter. -/
theorem startsWithDigit_or_letters (h : ∀ d ∈ c :: cs, isSmallOrDigit d = true) :
    (c.isDigit = true ∨ ∃ d ds, cs = d :: ds ∧ d.isDigit = true) ∨
      c.isAlpha = true ∧ (cs = [] ∨ ∃ d ds, cs = d :: ds ∧ d.isAlpha = true) := by
  cases hc : c.isDigit with
  | true => exact .inl (.inl rfl)
  | false =>
      have hletter := isAlpha_of_isDigit_eq_false (h c List.mem_cons_self) hc
      cases cs with
      | nil => exact .inr ⟨hletter, .inl rfl⟩
      | cons d ds =>
          cases hd : d.isDigit with
          | true => exact .inl (.inr ⟨d, ds, rfl, hd⟩)
          | false =>
              have hnext := isAlpha_of_isDigit_eq_false (h d (by simp)) hd
              exact .inr ⟨hletter, .inr ⟨d, ds, rfl, hnext⟩⟩

theorem staysWhole_of_letters (hc : c.isAlpha = true)
    (h : cs = [] ∨ ∃ d ds, cs = d :: ds ∧ d.isAlpha = true) : StaysWhole (c :: cs) := by
  rcases h with rfl | ⟨d, ds, rfl, hd⟩
  · exact .letter hc (by simp)
  · exact .letters hc hd

/-- A word with a digit among its first two characters stays whole when only digits follow. -/
theorem staysWhole_iff_of_digit (hsmall : isSmallOrDigit c = true)
    (h : c.isDigit = true ∨ ∃ d ds, cs = d :: ds ∧ d.isDigit = true) :
    StaysWhole (c :: cs) ↔ ∀ d ∈ cs, d.isDigit = true := by
  constructor
  · intro hwhole
    cases hwhole with
    | digits hdigits => exact fun d hd => hdigits d (List.mem_cons_of_mem _ hd)
    | letter _ hdigits => exact hdigits
    | letters hc hd =>
        simp [not_isDigit_of_isAlpha hc, not_isDigit_of_isAlpha hd] at h
  · intro hdigits
    cases hdigit : c.isDigit with
    | true => exact .digits (List.forall_mem_cons.mpr ⟨hdigit, hdigits⟩)
    | false => exact .letter (isAlpha_of_isDigit_eq_false hsmall hdigit) hdigits

/-- Behind a digit among the first two characters, a letter is late. -/
theorem hasLateLetter_of_digit {letter : Char}
    (h : c.isDigit = true ∨ ∃ d ds, cs = d :: ds ∧ d.isDigit = true) (hmem : letter ∈ cs)
    (hletter : letter.isAlpha = true) : HasLateLetter (c :: cs) := by
  rcases h with hc | ⟨d, ds, rfl, hd⟩
  · obtain ⟨middle, back, rfl⟩ := List.append_of_mem hmem
    exact ⟨[], c, middle, letter, back, rfl, hc, hletter, by simp⟩
  · have hne : letter ≠ d := by
      rintro rfl
      exact not_isDigit_of_isAlpha hletter hd
    obtain ⟨middle, back, rfl⟩ := List.append_of_mem ((List.mem_cons.mp hmem).resolve_left hne)
    exact ⟨[c], d, middle, letter, back, rfl, hd, hletter, List.countP_le_length⟩

theorem HasLateLetter.not_staysWhole {word : List Char} (h : HasLateLetter word) :
    ¬ StaysWhole word := by
  obtain ⟨front, digit, middle, letter, back, hword, hdigit, hletter, hcount⟩ := h
  intro hwhole
  cases hwhole with
  | digits hdigits => exact not_isDigit_of_isAlpha hletter (hdigits letter (by simp [hword]))
  | letter hc hdigits =>
      -- the digit is not the first character, so the letter is among those behind the first
      cases front with
      | nil =>
          cases hword
          exact not_isDigit_of_isAlpha hc hdigit
      | cons first front =>
          cases hword
          exact not_isDigit_of_isAlpha hletter (hdigits letter (by simp))
  | letters hc hd =>
      -- the digit is neither the first nor the second character, so two letters are in front of it
      rcases front with _ | ⟨first, _ | ⟨second, front⟩⟩
      · obtain ⟨rfl, -⟩ := List.cons.inj hword
        exact not_isDigit_of_isAlpha hc hdigit
      · cases hword
        exact not_isDigit_of_isAlpha hd hdigit
      · cases hword
        rw [List.countP_cons_of_pos hc, List.countP_cons_of_pos hd] at hcount
        omega

/-- A word stays whole unless it has a late letter. -/
theorem staysWhole_iff {word : List Char} (h : ∀ c ∈ word, isSmallOrDigit c = true) :
    StaysWhole word ↔ ¬ HasLateLetter word := by
  refine ⟨fun hwhole hlate => hlate.not_staysWhole hwhole, fun hlate => ?_⟩
  cases word with
  | nil => exact .digits (by simp)
  | cons c cs =>
      rcases startsWithDigit_or_letters h with hdigit | ⟨hc, hletters⟩
      · rw [staysWhole_iff_of_digit (h c List.mem_cons_self) hdigit]
        intro d hd
        by_contra hnot
        have hletter := isAlpha_of_isDigit_eq_false (h d (List.mem_cons_of_mem _ hd))
          (Bool.eq_false_iff.mpr hnot)
        exact hlate (hasLateLetter_of_digit hdigit hd hletter)
      · exact staysWhole_of_letters hc hletters

end Word

section Cuts

variable {c : Char} {cs : List Char}

theorem length_le_length_takeWhile_iff {p : Char → Bool} {run : List Char} :
    run.length ≤ (run.takeWhile p).length ↔ ∀ c ∈ run, p c = true := by
  rw [← List.takeWhile_eq_self_iff]
  constructor
  · exact (List.takeWhile_prefix p).eq_of_length_le
  · intro heq
    rw [heq]

/-- Two capitals are followed by capitals and digits up to the end of the word. -/
theorem firstWordLength_of_two_capitals {d : Char} {rest : List Char} (hc : c.isUpper = true)
    (hd : d.isUpper = true) (h : ∀ e ∈ rest, isCapitalOrDigit e = true ∧ e.isLower = false) :
    firstWordLength c (d :: rest) = (c :: d :: rest).length := by
  have hrun : (d :: rest).takeWhile isCapitalOrDigit = d :: rest := by
    rw [List.takeWhile_eq_self_iff, List.forall_mem_cons]
    exact ⟨by simp [isCapitalOrDigit, hd], fun e he => (h e he).1⟩
  unfold firstWordLength
  rw [if_pos hc]
  dsimp only
  split
  next e es hdrop =>
    have he : e.isLower = false := by
      have hmem : e ∈ (d :: rest).dropWhile Char.isUpper := by simp [hdrop]
      rw [List.dropWhile_cons_of_pos hd] at hmem
      exact (h e ((List.dropWhile_sublist _).mem hmem)).2
    rw [if_neg (by simp [List.takeWhile_cons_of_pos hd]), if_neg (by simp [he]), hrun,
      Nat.add_comm, ← List.length_cons]
  next hdrop =>
    have hcapitals := List.takeWhile_append_dropWhile (p := Char.isUpper) (l := d :: rest)
    rw [hdrop, List.append_nil] at hcapitals
    rw [hcapitals, Nat.add_comm, ← List.length_cons]

/-- A word in capitals is cut off whole exactly when it stays whole. -/
theorem length_le_firstWordLength_iff (h : ∀ d ∈ c :: cs, isSmallOrDigit d = true) :
    (c :: cs).length ≤ firstWordLength c.toUpper (cs.map Char.toUpper) ↔
      StaysWhole (c :: cs) := by
  have hc := h c List.mem_cons_self
  have hcs : ∀ d ∈ cs, isSmallOrDigit d = true := fun d hd => h d (List.mem_cons_of_mem _ hd)
  have hkinds := fun d hd => kinds_of_isSmallOrDigit (hcs d hd)
  rcases startsWithDigit_or_letters h with hdigit | ⟨hletter, hletters⟩
  · have hstart : c.toUpper.isUpper = false ∨
        ∃ d ds, cs.map Char.toUpper = d :: ds ∧ isSmallOrDigit d = true := by
      rcases hdigit with hdigit | ⟨d, ds, rfl, hd⟩
      · exact .inl (by rw [(toUpper_of_isSmallOrDigit hc).1, hdigit, Bool.not_true])
      · refine .inr ⟨_, _, List.map_cons .., ?_⟩
        rw [(hkinds d List.mem_cons_self).2.2.2, hd]
    have hcut := firstWordLength_of_small hstart
    rw [hcut, staysWhole_iff_of_digit hc hdigit, List.length_cons, Nat.add_comm,
      Nat.add_le_add_iff_left, ← List.length_map Char.toUpper, length_le_length_takeWhile_iff,
      List.forall_mem_map]
    exact forall₂_congr fun d hd => by rw [(hkinds d hd).2.2.2]
  · have hcut : firstWordLength c.toUpper (cs.map Char.toUpper) = (c :: cs).length := by
      have hupper : ∀ d ∈ c :: cs, d.isAlpha = true → d.toUpper.isUpper = true := by
        intro d hd hletter
        rw [(toUpper_of_isSmallOrDigit (h d hd)).1]
        simpa using not_isDigit_of_isAlpha hletter
      rcases hletters with rfl | ⟨d, ds, rfl, hd⟩
      · simp [firstWordLength]
      · rw [List.map_cons, firstWordLength_of_two_capitals (hupper c List.mem_cons_self hletter)
          (hupper d (by simp) hd)]
        · simp
        · intro e he
          obtain ⟨small, hsmall, rfl⟩ := List.mem_map.mp he
          have hmem := List.mem_cons_of_mem d hsmall
          exact ⟨isCapitalOrDigit_toUpper (hcs small hmem), (hkinds small hmem).2.2.1⟩
    rw [hcut]
    exact iff_of_true le_rfl (staysWhole_of_letters hletter hletters)

end Cuts

theorem isWordChar_toUpper {c : Char} (h : isSmallOrDigit c = true) :
    isWordChar c.toUpper = true :=
  of_isWordChar (P := fun c => isSmallOrDigit c = true → isWordChar c.toUpper = true)
    (by decide +kernel) (isWordChar_of_isSmallOrDigit h) h

namespace IsProperWord

variable {word : String}

theorem lowered_toUpper (h : IsProperWord word) :
    lowered (word.toList.map Char.toUpper) = word := by
  have hlower : word.toList.map (Char.toLower ∘ Char.toUpper) = word.toList :=
    map_eq_self fun c hc => toLower_toUpper_of_isSmallOrDigit (h.isSmallOrDigit c hc)
  rw [lowered, List.map_map, hlower, String.ofList_toList]

theorem wordsOf_toUpper (h : IsProperWord word) : wordsOf (word.toList.map Char.toUpper) =
    (splitRun (word.toList.map Char.toUpper)).map lowered := by
  apply wordsOf_run
  · simpa using h.ne_nil
  · exact List.forall_mem_map.mpr fun c hc => isWordChar_toUpper (h.isSmallOrDigit c hc)

theorem wordsOf_toUpper_ne_nil (h : IsProperWord word) :
    wordsOf (word.toList.map Char.toUpper) ≠ [] := by
  obtain ⟨c, cs, hchars, -, -⟩ := h.exists_cons
  rw [h.wordsOf_toUpper, hchars, List.map_cons, splitRun, List.map_cons]
  exact List.cons_ne_nil _ _

/-- A word in capitals is read as the word exactly when it stays whole. -/
theorem wordsOf_toUpper_iff (h : IsProperWord word) :
    wordsOf (word.toList.map Char.toUpper) = [word] ↔ StaysWhole word.toList := by
  obtain ⟨c, cs, hchars, -, -⟩ := h.exists_cons
  have hsmall : ∀ d ∈ c :: cs, Name.isSmallOrDigit d = true := hchars ▸ h.isSmallOrDigit
  have hlowered := h.lowered_toUpper
  rw [h.wordsOf_toUpper, hchars, ← length_le_firstWordLength_iff hsmall, List.map_cons, splitRun]
  rw [hchars, List.map_cons] at hlowered
  constructor
  · intro heq
    have hfirst := congrArg String.length (List.cons.inj heq).1
    rw [lowered, String.length_ofList, List.length_map, List.length_take, List.length_cons,
      List.length_map, length_eq_of_toList hchars] at hfirst
    rw [List.length_cons]
    omega
  · intro hcut
    have hwhole : (c.toUpper :: cs.map Char.toUpper).length ≤
        firstWordLength c.toUpper (cs.map Char.toUpper) := by simpa using hcut
    rw [List.take_of_length_le hwhole, List.drop_of_length_le hwhole, splitRun, List.map_singleton,
      hlowered]

end IsProperWord

/-- When no word is cut into nothing, all words together stay as they are exactly when each does. -/
theorem flatMap_eq_self_iff {cut : String → List String} {words : List String}
    (h : ∀ word ∈ words, cut word ≠ []) :
    words.flatMap cut = words ↔ ∀ word ∈ words, cut word = [word] := by
  induction words with
  | nil => simp
  | cons word rest ih =>
      have hrest : ∀ other ∈ rest, cut other ≠ [] :=
        fun other hother => h other (List.mem_cons_of_mem _ hother)
      obtain ⟨first, more, hcut⟩ := List.exists_cons_of_ne_nil (h word List.mem_cons_self)
      have hlength : rest.length ≤ (rest.flatMap cut).length := by
        have hpositive : ∀ n ∈ rest.map fun other => (cut other).length, 1 ≤ n := by
          rw [List.forall_mem_map]
          exact fun other hother => List.length_pos_iff.mpr (hrest other hother)
        have hsum := List.length_le_sum_of_one_le _ hpositive
        rwa [List.length_map, ← List.length_flatMap] at hsum
      rw [List.forall_mem_cons, ← ih hrest, List.flatMap_cons, hcut, List.cons_append,
        List.cons.injEq, List.cons.injEq, and_assoc, and_congr_right_iff]
      intro _
      constructor
      · intro heq
        -- what the first word leaves over would be one word too many
        have hsize := congrArg List.length heq
        rw [List.length_append] at hsize
        obtain rfl : more = [] := List.length_eq_zero_iff.mp (by omega)
        exact ⟨rfl, heq⟩
      · rintro ⟨rfl, heq⟩
        exact heq

/-- The words of a constant are those of the words of its name in capitals. -/
theorem IsProper.wordsOf_constantName {name : Name} (h : name.IsProper) :
    wordsOf name.constantName.toList =
      name.words.flatMap fun word => wordsOf (word.toList.map Char.toUpper) := by
  have hwords := wordsOf_intercalate (c := '_') rfl
    (name.words.map fun word => word.toList.map Char.toUpper)
  rw [List.flatMap_map] at hwords
  rw [h.constantName_toList, toString, String.toList_intercalate, map_intercalate, List.map_map]
  exact hwords

/-- A constant is read as the name that it was made of exactly when every word of the name is all
digits, or a letter with digits only behind it, or starts with two letters. In other words, a text
in snake case is read alike in capitals exactly when no word of it has a letter behind a digit that
has at most one letter in front of it. -/
theorem ofText?_constantName_iff {text : String} {name : Name} (h : ofText? text = some name) :
    (ofText? name.constantName = some name ↔ ∀ word ∈ name.words, StaysWhole word.toList) ∧
      (ofText? (Text.upper name.toString) = ofText? name.toString ↔
        ∀ word ∈ name.words, ¬ HasLateLetter word.toList) := by
  have hproper := isProper_of_ofText? h
  have hread : ofText? name.constantName = some name ↔
      ∀ word ∈ name.words, StaysWhole word.toList := by
    rw [ofText?_eq_some_iff hproper.words_ne_nil, hproper.wordsOf_constantName,
      flatMap_eq_self_iff fun _ hword => (hproper.isProperWord hword).wordsOf_toUpper_ne_nil]
    exact forall₂_congr fun _ hword => (hproper.isProperWord hword).wordsOf_toUpper_iff
  refine ⟨hread, ?_⟩
  rw [hproper.ofText?_toString, ← constantName, hread]
  exact forall₂_congr fun _ hword => staysWhole_iff (hproper.isProperWord hword).isSmallOrDigit

/-- Words such as `i18n` are cut in capitals, and others are not. -/
theorem ofText?_constantName_iff_utf8 :
    (ofText? "utf8_x2" = some ⟨["utf8", "x2"]⟩ ∧ ofText? "UTF8_X2" = some ⟨["utf8", "x2"]⟩) ∧
      ofText? "my_i18n" = some ⟨["my", "i18n"]⟩ ∧ ofText? "MY_I18N" ≠ ofText? "my_i18n" := by
  have hkept : ofText? "utf8_x2" = some ⟨["utf8", "x2"]⟩ := by decide +kernel
  have hcut : ofText? "my_i18n" = some ⟨["my", "i18n"]⟩ := by decide +kernel
  have hlate : HasLateLetter "i18n".toList :=
    ⟨['i'], '1', ['8'], 'n', [], by decide +kernel, by decide, by decide, by decide⟩
  refine ⟨⟨hkept, ?_⟩, hcut, ?_⟩
  · have hconstant : (Name.mk ["utf8", "x2"]).constantName = "UTF8_X2" := by decide +kernel
    have hfirst : "utf8".toList = ['u', 't', 'f', '8'] := by decide +kernel
    have hsecond : "x2".toList = ['x', '2'] := by decide +kernel
    have hwhole : ∀ word ∈ ["utf8", "x2"], StaysWhole word.toList := by
      rw [List.forall_mem_cons, List.forall_mem_singleton, hfirst, hsecond]
      exact ⟨.letters rfl rfl, .letter rfl (List.forall_mem_singleton.mpr rfl)⟩
    rw [← hconstant]
    exact (ofText?_constantName_iff hkept).1.mpr hwhole
  · have hspelled : (Name.mk ["my", "i18n"]).toString = "my_i18n" := by decide +kernel
    have hupper : Text.upper "my_i18n" = "MY_I18N" := by decide +kernel
    have hiff := (ofText?_constantName_iff hcut).2
    rw [hspelled, hupper] at hiff
    rw [ne_eq, hiff]
    exact fun hnone => hnone "i18n" (by simp) hlate

end RubyClasses.Name
