import RubyClasses.Proofs.Text.Parts

/-! # The letters of names

The words that a text spells are made of small letters and digits. The class that is named after
them is made of letters and digits, and the constant starts with a capital letter or a digit.
-/

namespace RubyClasses

namespace Name

theorem isWordChar_eq (c : Char) : isWordChar c = (c.isUpper || isSmallOrDigit c) :=
  Bool.or_assoc _ _ _

/-- Word characters are basic Latin. -/
theorem toNat_lt_of_isWordChar {c : Char} (h : isWordChar c = true) : c.toNat < 128 := by
  have hlt : ∀ last : UInt32, last.toNat < 128 → c.val ≤ last → c.toNat < 128 :=
    fun last hlast hle => Nat.lt_of_le_of_lt (UInt32.le_iff_toNat_le.mp hle) hlast
  simp only [isWordChar_eq, isSmallOrDigit, Bool.or_eq_true] at h
  rcases h with hupper | hlower | hdigit
  · exact hlt 'Z'.val (by decide) (of_decide_eq_true hupper).2
  · exact hlt 'z'.val (by decide) (of_decide_eq_true (Bool.and_eq_true_iff.mp hlower).2)
  · exact hlt '9'.val (by decide) (of_decide_eq_true (Bool.and_eq_true_iff.mp hdigit).2)

theorem isWordChar_of_isSmallOrDigit {c : Char} (h : isSmallOrDigit c = true) :
    isWordChar c = true := by
  rw [isWordChar_eq, h, Bool.or_true]

/-- There are few word characters, so what holds of them can be seen at each of them. -/
theorem of_isWordChar {P : Char → Prop}
    (h : ∀ n < 128, isWordChar (Char.ofNat n) = true → P (Char.ofNat n)) {c : Char}
    (hc : isWordChar c = true) : P c := by
  have hcode := h c.toNat (toNat_lt_of_isWordChar hc)
  rw [Char.ofNat_toNat] at hcode
  exact hcode hc

/-- The forms of a word character. -/
theorem forms_of_isWordChar {c : Char} (h : isWordChar c = true) :
    isSmallOrDigit c.toLower = true ∧
      (isSmallOrDigit c = true → c.toLower = c ∧ isCapitalOrDigit c.toUpper = true) :=
  of_isWordChar (P := fun c => isSmallOrDigit c.toLower = true ∧
    (isSmallOrDigit c = true → c.toLower = c ∧ isCapitalOrDigit c.toUpper = true))
    (by decide +kernel) h

theorem toLower_of_isSmallOrDigit {c : Char} (h : isSmallOrDigit c = true) : c.toLower = c :=
  ((forms_of_isWordChar (isWordChar_of_isSmallOrDigit h)).2 h).1

theorem isCapitalOrDigit_toUpper {c : Char} (h : isSmallOrDigit c = true) :
    isCapitalOrDigit c.toUpper = true :=
  ((forms_of_isWordChar (isWordChar_of_isSmallOrDigit h)).2 h).2

/-- The words of a name are not empty and made of small letters and digits. -/
structure IsProper (name : Name) : Prop where
  words_ne_nil : name.words ≠ []
  word_ne_nil : ∀ word ∈ name.words, word.toList ≠ []
  isSmallOrDigit : ∀ word ∈ name.words, ∀ c ∈ word.toList, Name.isSmallOrDigit c = true

/-- Cutting a run of word characters leaves no word empty and adds no characters. -/
theorem splitRun_mem {run word : List Char} (hword : word ∈ splitRun run) :
    word ≠ [] ∧ ∀ c ∈ word, c ∈ run := by
  induction run using splitRun.induct with
  | case1 => simp [splitRun] at hword
  | case2 c rest n ih =>
      rw [splitRun] at hword
      rcases List.mem_cons.mp hword with rfl | hword
      · have hpos := firstWordLength_pos c rest
        refine ⟨?_, fun d hd => List.mem_of_mem_take hd⟩
        intro hnil
        rw [List.take_eq_nil_iff] at hnil
        rcases hnil with hzero | hnil
        · omega
        · cases hnil
      · obtain ⟨hne, hmem⟩ := ih hword
        exact ⟨hne, fun d hd => List.mem_of_mem_drop (hmem d hd)⟩

theorem mem_wordsOf {cs : List Char} {word : String} (h : word ∈ wordsOf cs) :
    word.toList ≠ [] ∧ ∀ c ∈ word.toList, isSmallOrDigit c = true := by
  simp only [wordsOf, runs, List.mem_map, List.mem_flatMap, List.mem_filter] at h
  obtain ⟨cut, ⟨run, ⟨hrun, -⟩, hcut⟩, rfl⟩ := h
  obtain ⟨hne, hmem⟩ := splitRun_mem hcut
  simp only [String.toList_ofList, List.mem_map, forall_exists_index, and_imp]
  refine ⟨fun hnil => hne (List.map_eq_nil_iff.mp hnil), ?_⟩
  rintro _ c hc rfl
  have hword := Text.partsBetween_mem hrun c (hmem c hc)
  exact (forms_of_isWordChar (by simpa using hword)).1

/-- A text spells proper names only. -/
theorem isProper_of_ofText? {s : String} {name : Name} (h : ofText? s = some name) :
    name.IsProper := by
  unfold ofText? at h
  split at h
  next => cases h
  next hsome =>
    cases h
    exact ⟨hsome, fun _ hmem => (mem_wordsOf hmem).1, fun _ hmem => (mem_wordsOf hmem).2⟩

/-- The characters of accessors: small letters, digits and underscores. -/
def isAccessorChar (c : Char) : Bool := isSmallOrDigit c || c == '_'

end Name

namespace Text

/-- Small letters and digits stay as they are when a word is put into small letters. -/
theorem lowerAfter_eq_self {cs : List Char} (h : ∀ c ∈ cs, Name.isSmallOrDigit c = true)
    (before : List Char) : lowerAfter before cs = cs := by
  induction cs generalizing before with
  | nil => rfl
  | cons c rest ih =>
      have hc := h c List.mem_cons_self
      have hlatin := Name.toNat_lt_of_isWordChar (Name.isWordChar_of_isSmallOrDigit hc)
      have hsigma : c ≠ 'Σ' := by
        rintro rfl
        cases hc
      rw [lowerAfter, if_neg hsigma, small, if_pos hlatin, Name.toLower_of_isSmallOrDigit hc,
        ih (fun d hd => h d (List.mem_cons_of_mem _ hd))]
      rfl

/-- A word of small letters and digits is capitalized at its first character. -/
theorem capitalize_toList {word : String} {c : Char} {rest : List Char}
    (hword : word.toList = c :: rest) (h : ∀ d ∈ word.toList, Name.isSmallOrDigit d = true) :
    (capitalize word).toList = c.toUpper :: rest := by
  rw [hword] at h
  have hc := h c List.mem_cons_self
  have hlatin := Name.toNat_lt_of_isWordChar (Name.isWordChar_of_isSmallOrDigit hc)
  rw [capitalize, hword]
  simp only [title, if_pos hlatin, String.toList_ofList]
  rw [lowerAfter_eq_self (fun d hd => h d (List.mem_cons_of_mem _ hd))]
  rfl

end Text

namespace Name.IsProper

variable {name : Name}

theorem isWordChar_className (h : name.IsProper) {c : Char} (hc : c ∈ name.className.toList) :
    isWordChar c = true := by
  simp only [className, String.toList_join, List.flatMap_map, List.mem_flatMap] at hc
  obtain ⟨word, hword, hc⟩ := hc
  obtain ⟨d, rest, hchars⟩ := List.exists_cons_of_ne_nil (h.word_ne_nil word hword)
  have hsmall := h.isSmallOrDigit word hword
  rw [Text.capitalize_toList hchars hsmall] at hc
  rw [hchars] at hsmall
  rcases List.mem_cons.mp hc with rfl | hc
  · have hcapital := isCapitalOrDigit_toUpper (hsmall d List.mem_cons_self)
    simp only [isCapitalOrDigit, isWordChar_eq, Name.isSmallOrDigit, Bool.or_eq_true] at hcapital ⊢
    rcases hcapital with hupper | hdigit
    · exact .inl hupper
    · exact .inr (.inr hdigit)
  · exact isWordChar_of_isSmallOrDigit (hsmall c (List.mem_cons_of_mem _ hc))

/-- A name starts with a small letter or a digit. -/
theorem exists_toString (h : name.IsProper) :
    ∃ c rest, name.toString.toList = c :: rest ∧ Name.isSmallOrDigit c = true := by
  obtain ⟨word, words, hwords⟩ := List.exists_cons_of_ne_nil h.words_ne_nil
  have hmem : word ∈ name.words := by simp [hwords]
  obtain ⟨c, rest, hchars⟩ := List.exists_cons_of_ne_nil (h.word_ne_nil word hmem)
  have hc := h.isSmallOrDigit word hmem c (by simp [hchars])
  rw [toString, String.toList_intercalate, hwords]
  cases words with
  | nil => exact ⟨c, rest, by simp [hchars, List.intercalate], hc⟩
  | cons _ _ => exact ⟨c, _, by simp [hchars, List.intercalate]; rfl, hc⟩

theorem exists_accessorName (h : name.IsProper) :
    ∃ c rest, name.accessorName.toList = c :: rest ∧ Name.isSmallOrDigit c = true := by
  obtain ⟨c, rest, hchars, hc⟩ := h.exists_toString
  unfold accessorName
  split
  · exact ⟨c, rest ++ ['_'], by simp [hchars], hc⟩
  · exact ⟨c, rest, hchars, hc⟩

theorem mem_toString (h : name.IsProper) {c : Char} (hc : c ∈ name.toString.toList) :
    Name.isSmallOrDigit c = true ∨ c = '_' := by
  rw [toString, String.toList_intercalate] at hc
  rcases mem_of_mem_intercalate hc with hc | ⟨_, hchars, hmem⟩
  · exact .inr (by simpa using hc)
  · obtain ⟨word, hword, rfl⟩ := List.mem_map.mp hchars
    exact .inl (h.isSmallOrDigit word hword c hmem)

theorem isAccessorChar_of_mem (h : name.IsProper) {c : Char}
    (hc : c ∈ name.accessorName.toList) : Name.isAccessorChar c = true := by
  rw [isAccessorChar, Bool.or_eq_true, beq_iff_eq]
  unfold accessorName at hc
  split at hc
  · rw [String.toList_append] at hc
    rcases List.mem_append.mp hc with hc | hc
    · exact h.mem_toString hc
    · exact .inr (by simpa using hc)
  · exact h.mem_toString hc

theorem notMem_accessorName (h : name.IsProper) {c : Char}
    (hc : Name.isAccessorChar c = false) : c ∉ name.accessorName.toList := by
  intro hmem
  rw [h.isAccessorChar_of_mem hmem] at hc
  cases hc

/-- A constant starts with a capital letter or a digit. -/
theorem exists_constantName (h : name.IsProper) :
    ∃ c rest, name.constantName.toList = c :: rest ∧ Name.isCapitalOrDigit c = true := by
  obtain ⟨c, rest, hchars, hc⟩ := h.exists_toString
  have hlatin := toNat_lt_of_isWordChar (isWordChar_of_isSmallOrDigit hc)
  refine ⟨c.toUpper, rest.flatMap Text.capital, ?_, isCapitalOrDigit_toUpper hc⟩
  simp [constantName, Text.upper, hchars, Text.capital, hlatin]

end Name.IsProper

end RubyClasses
