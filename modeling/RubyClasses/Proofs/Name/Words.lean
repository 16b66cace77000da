import RubyClasses.Proofs.Name.Letters

/-! # The words of a text

Nothing is lost between a text and its words: together they are the letters and digits of the text,
in order and in small letters. So a text spells a name exactly when it has a letter or a digit.
-/

namespace RubyClasses

/-- A symbol is a letter or a digit of basic Latin; a surrogate that stands alone is neither. -/
def Symbol.isWordChar : Symbol → Bool
  | .char c => Name.isWordChar c
  | .lone _ => false

theorem Symbol.isWordChar_toChar (symbol : Symbol) :
    Name.isWordChar symbol.toChar = symbol.isWordChar := by
  cases symbol with
  | char c => rfl
  | lone code => rfl

/-- The letters and digits of a text, in order and in small letters. -/
def Text.lettersAndDigits (t : Text) : String :=
  String.ofList ((t.filter Symbol.isWordChar).map fun symbol => symbol.toChar.toLower)

namespace Name

/-- Cutting a run into words keeps its characters. -/
theorem flatten_splitRun (run : List Char) : (splitRun run).flatten = run := by
  induction run using splitRun.induct with
  | case1 => simp [splitRun]
  | case2 c rest n ih =>
      rw [splitRun, List.flatten_cons, ih]
      exact List.take_append_drop n (c :: rest)

theorem flatten_runs (cs : List Char) : (runs cs).flatten = cs.filter isWordChar := by
  have hparts := Text.flatten_partsBetween (fun c => !isWordChar c) cs
  simp only [Bool.not_not] at hparts
  rw [runs, ← hparts]
  exact List.flatten_filter_not_isEmpty

/-- The words of a text are its letters and digits, in small letters. -/
theorem flatMap_wordsOf (cs : List Char) :
    (wordsOf cs).flatMap String.toList = (cs.filter isWordChar).map Char.toLower := by
  have hwords : ((runs cs).flatMap splitRun).flatten = cs.filter isWordChar := by
    rw [List.flatMap_def, List.flatten_flatten, List.map_map]
    have hcut : List.flatten ∘ splitRun = id := funext flatten_splitRun
    rw [hcut, List.map_id, flatten_runs]
  rw [wordsOf, List.flatMap_map, ← hwords, List.map_flatten, List.flatMap_def]
  simp only [String.toList_ofList]

theorem wordsOf_eq_nil_iff {cs : List Char} :
    wordsOf cs = [] ↔ ∀ c ∈ cs, isWordChar c = false := by
  constructor
  · intro hnil
    have hletters := flatMap_wordsOf cs
    rw [hnil, List.flatMap_nil, eq_comm, List.map_eq_nil_iff, List.filter_eq_nil_iff] at hletters
    exact fun c hc => Bool.eq_false_iff.mpr (hletters c hc)
  · intro hnone
    have hletters := flatMap_wordsOf cs
    rw [List.filter_eq_nil_iff.mpr (fun c hc => by simp [hnone c hc])] at hletters
    -- no word is empty, so words without letters are no words
    cases hwords : wordsOf cs with
    | nil => rfl
    | cons word words =>
        have hmem : word ∈ wordsOf cs := by simp [hwords]
        have hword := (mem_wordsOf hmem).1
        rw [hwords, List.flatMap_cons] at hletters
        exact absurd (List.append_eq_nil_iff.mp hletters).1 hword

/-- A text spells a name when it has a letter or a digit. -/
theorem exists_ofText?_iff {s : String} :
    (∃ name, ofText? s = some name) ↔ ∃ c ∈ s.toList, isWordChar c = true := by
  have hnil : wordsOf s.toList = [] ↔ _ := wordsOf_eq_nil_iff
  unfold ofText?
  split
  next hwords =>
    have hnone := hnil.mp hwords
    simp only [reduceCtorEq, exists_false, false_iff, not_exists, not_and]
    exact fun c hc => Bool.eq_false_iff.mp (hnone c hc)
  next hwords =>
    have hsome := fun h => hwords (hnil.mpr h)
    simpa using hsome

theorem words_of_ofText? {s : String} {name : Name} (h : ofText? s = some name) :
    name.words = wordsOf s.toList := by
  unfold ofText? at h
  split at h
  next => cases h
  next =>
    cases h
    rfl

/-- A text without letters and digits spells no name. Any other text spells a name whose words are
not empty, are made of small letters and digits, and are together the letters and digits of the
text, in order and in small letters. -/
theorem ofText?_conserves (t : Text) :
    (ofText? t.toString = none ↔ ∀ symbol ∈ t, symbol.isWordChar = false) ∧
      ∀ name, ofText? t.toString = some name →
        (∀ word ∈ name.words, word ≠ "" ∧ ∀ c ∈ word.toList, isSmallOrDigit c = true) ∧
          String.join name.words = t.lettersAndDigits := by
  constructor
  · have hsome := exists_ofText?_iff (s := t.toString)
    rw [← Option.isSome_iff_exists] at hsome
    rw [← Option.not_isSome_iff_eq_none, hsome]
    simp [Text.toString, Text.toChars, Symbol.isWordChar_toChar]
  · intro name hname
    have hproper := isProper_of_ofText? hname
    refine ⟨fun word hword => ⟨?_, hproper.isSmallOrDigit word hword⟩, ?_⟩
    · rintro rfl
      exact hproper.word_ne_nil "" hword rfl
    · have hletters := flatMap_wordsOf t.toString.toList
      rw [← words_of_ofText? hname, Text.toString, String.toList_ofList, Text.toChars,
        List.filter_map, List.map_map] at hletters
      have hsymbols : isWordChar ∘ Symbol.toChar = Symbol.isWordChar :=
        funext Symbol.isWordChar_toChar
      apply String.toList_inj.mp
      rw [String.toList_join, hletters, hsymbols, Text.lettersAndDigits, String.toList_ofList]
      rfl

/-- A name with an umlaut, separators, and a surrogate that stands alone between two words. -/
def mixedText : Text :=
  Text.ofString "über_VM ID" ++ Symbol.lone 0xd800 :: Text.ofString "2x"

/-- The umlaut, the separators and the surrogate are lost and nothing else is. -/
theorem ofText?_conserves_mixedText :
    ofText? mixedText.toString = some ⟨["ber", "vm", "id", "2x"]⟩ ∧
      String.join ["ber", "vm", "id", "2x"] = mixedText.lettersAndDigits ∧
      mixedText.lettersAndDigits = "bervmid2x" ∧ ofText? (Text.ofString "_ü-").toString = none := by
  have hname : ofText? mixedText.toString = some ⟨["ber", "vm", "id", "2x"]⟩ := by decide +kernel
  refine ⟨hname, ((ofText?_conserves mixedText).2 _ hname).2, by decide +kernel, ?_⟩
  exact (ofText?_conserves _).1.mpr (by decide +kernel)

end Name

end RubyClasses
