import RubyClasses.Proofs.Name.Letters

/-! # What class names tell

The words of a name are capitalized and joined without a separator. Cutting a class name in front of
its capitals gives the words back, except those that start with a digit: they have no capital and
stay with the word in front of them. So two names have one class name exactly when they agree once
such words are joined.
-/

namespace RubyClasses.Name

/-- A word starts with a digit. -/
def startsWithDigit (word : String) : Bool := (word.toList.head?.map Char.isDigit).getD false

/-- Join the words that start with a digit to the word in front of them, the first word being
read. -/
def joinOnto (word : String) : List String → List String
  | [] => [word]
  | next :: rest =>
      if startsWithDigit next then joinOnto (word ++ next) rest else word :: joinOnto next rest

/-- A name whose words that start with a digit are joined to the word in front of them. -/
def joined (name : Name) : Name :=
  match name.words with
  | [] => name
  | word :: rest => ⟨joinOnto word rest⟩

/-- Cut a text in front of its capitals, the characters of the first word being read. -/
def cutAtCapitals (word : List Char) : List Char → List String
  | [] => [String.ofList word]
  | c :: rest =>
      if c.isUpper then String.ofList word :: cutAtCapitals [c.toLower] rest
      else cutAtCapitals (word ++ [c]) rest

/-- The name that a text spells when its capitals start the words. -/
def ofClassName (text : String) : Name :=
  match text.toList with
  | [] => ⟨[]⟩
  | c :: rest => ⟨cutAtCapitals [c.toLower] rest⟩

/-- Small letters have a capital form and digits have none. -/
theorem toUpper_of_isSmallOrDigit {c : Char} (h : isSmallOrDigit c = true) :
    c.toUpper.isUpper = !c.isDigit ∧ (c.isDigit = true → c.toUpper = c) :=
  of_isWordChar (P := fun c => isSmallOrDigit c = true →
    c.toUpper.isUpper = !c.isDigit ∧ (c.isDigit = true → c.toUpper = c))
    (by decide +kernel) (isWordChar_of_isSmallOrDigit h) h

theorem toLower_toUpper_of_isSmallOrDigit {c : Char} (h : isSmallOrDigit c = true) :
    c.toUpper.toLower = c :=
  of_isWordChar (P := fun c => isSmallOrDigit c = true → c.toUpper.toLower = c)
    (by decide +kernel) (isWordChar_of_isSmallOrDigit h) h

theorem isUpper_eq_false_of_isSmallOrDigit {c : Char} (h : isSmallOrDigit c = true) :
    c.isUpper = false :=
  of_isWordChar (P := fun c => isSmallOrDigit c = true → c.isUpper = false)
    (by decide +kernel) (isWordChar_of_isSmallOrDigit h) h

/-- A word is not empty and made of small letters and digits. -/
structure IsProperWord (word : String) : Prop where
  ne_nil : word.toList ≠ []
  isSmallOrDigit : ∀ c ∈ word.toList, Name.isSmallOrDigit c = true

theorem IsProper.isProperWord {name : Name} (h : name.IsProper) {word : String}
    (hword : word ∈ name.words) : IsProperWord word :=
  ⟨h.word_ne_nil word hword, h.isSmallOrDigit word hword⟩

theorem IsProperWord.append {word next : String} (h : IsProperWord word)
    (hnext : IsProperWord next) : IsProperWord (word ++ next) where
  ne_nil := by simp [h.ne_nil]
  isSmallOrDigit := by
    intro c hc
    rw [String.toList_append] at hc
    rcases List.mem_append.mp hc with hc | hc
    · exact h.isSmallOrDigit c hc
    · exact hnext.isSmallOrDigit c hc

theorem IsProperWord.exists_cons {word : String} (h : IsProperWord word) :
    ∃ c cs, word.toList = c :: cs ∧ Name.isSmallOrDigit c = true ∧
      ∀ d ∈ cs, Name.isSmallOrDigit d = true := by
  obtain ⟨c, cs, hchars⟩ := List.exists_cons_of_ne_nil h.ne_nil
  have hsmall : ∀ d ∈ c :: cs, Name.isSmallOrDigit d = true := hchars ▸ h.isSmallOrDigit
  exact ⟨c, cs, hchars, hsmall c List.mem_cons_self,
    fun d hd => hsmall d (List.mem_cons_of_mem _ hd)⟩

theorem startsWithDigit_of_toList {word : String} {c : Char} {cs : List Char}
    (hchars : word.toList = c :: cs) : startsWithDigit word = c.isDigit := by
  simp [startsWithDigit, hchars]

/-- The capitalized words, joined. -/
def capitals (words : List String) : List Char :=
  words.flatMap fun word => (Text.capitalize word).toList

theorem className_toList (name : Name) : name.className.toList = capitals name.words := by
  rw [className, String.toList_join, List.flatMap_map, capitals]

theorem capitals_cons {word : String} (h : IsProperWord word) {c : Char} {cs : List Char}
    (hchars : word.toList = c :: cs) (rest : List String) :
    capitals (word :: rest) = c.toUpper :: (cs ++ capitals rest) := by
  rw [capitals, List.flatMap_cons, Text.capitalize_toList hchars h.isSmallOrDigit]
  rfl

/-- Cutting passes over small letters and digits. -/
theorem cutAtCapitals_append {cs : List Char} (h : ∀ c ∈ cs, isSmallOrDigit c = true)
    (word rest : List Char) :
    cutAtCapitals word (cs ++ rest) = cutAtCapitals (word ++ cs) rest := by
  induction cs generalizing word with
  | nil => simp
  | cons c cs ih =>
      have hc := isUpper_eq_false_of_isSmallOrDigit (h c List.mem_cons_self)
      rw [List.cons_append, cutAtCapitals, hc, if_neg (by simp),
        ih (fun d hd => h d (List.mem_cons_of_mem _ hd))]
      simp

/-- Capitalized words are cut apart where they do not start with a digit. -/
theorem cutAtCapitals_capitals {words : List String} (h : ∀ word ∈ words, IsProperWord word)
    (word : String) :
    cutAtCapitals word.toList (capitals words) = joinOnto word words := by
  induction words generalizing word with
  | nil => simp [capitals, cutAtCapitals, joinOnto]
  | cons next rest ih =>
      have hnext := h next List.mem_cons_self
      have ih := ih fun other hother => h other (List.mem_cons_of_mem _ hother)
      obtain ⟨c, cs, hchars, hc, hcs⟩ := hnext.exists_cons
      obtain ⟨hupper, hdigit⟩ := toUpper_of_isSmallOrDigit hc
      have hlower := toLower_toUpper_of_isSmallOrDigit hc
      rw [capitals_cons hnext hchars, cutAtCapitals, joinOnto, hupper,
        startsWithDigit_of_toList hchars]
      cases hisDigit : c.isDigit with
      | true =>
          have hjoined : (word ++ next).toList = word.toList ++ [c] ++ cs := by
            simp [hchars]
          rw [hdigit hisDigit, if_neg (by simp), if_pos rfl, ← ih, hjoined,
            cutAtCapitals_append hcs]
      | false =>
          rw [if_pos (by simp), if_neg (by simp), hlower, String.ofList_toList, ← ih, hchars,
            cutAtCapitals_append hcs]
          rfl

/-- A word that starts with a digit has no capital. -/
theorem capitalize_of_startsWithDigit {word : String} (h : IsProperWord word)
    (hdigit : startsWithDigit word = true) : (Text.capitalize word).toList = word.toList := by
  obtain ⟨c, cs, hchars, hc, -⟩ := h.exists_cons
  rw [startsWithDigit_of_toList hchars] at hdigit
  rw [Text.capitalize_toList hchars h.isSmallOrDigit, hchars,
    (toUpper_of_isSmallOrDigit hc).2 hdigit]

theorem capitalize_append {word next : String} (h : IsProperWord word)
    (hnext : IsProperWord next) :
    (Text.capitalize (word ++ next)).toList = (Text.capitalize word).toList ++ next.toList := by
  obtain ⟨c, cs, hchars, -, -⟩ := h.exists_cons
  have hjoined : (word ++ next).toList = c :: (cs ++ next.toList) := by simp [hchars]
  rw [Text.capitalize_toList hjoined (h.append hnext).isSmallOrDigit,
    Text.capitalize_toList hchars h.isSmallOrDigit, List.cons_append]

/-- Joining words does not change what they are capitalized to. -/
theorem capitals_joinOnto {words : List String} (h : ∀ word ∈ words, IsProperWord word)
    {word : String} (hword : IsProperWord word) :
    capitals (joinOnto word words) = capitals (word :: words) := by
  induction words generalizing word with
  | nil => rfl
  | cons next rest ih =>
      have hnext := h next List.mem_cons_self
      have hrest : ∀ other ∈ rest, IsProperWord other :=
        fun other hother => h other (List.mem_cons_of_mem _ hother)
      rw [joinOnto]
      split
      next hdigit =>
        rw [ih hrest (hword.append hnext)]
        simp only [capitals, List.flatMap_cons, capitalize_append hword hnext,
          capitalize_of_startsWithDigit hnext hdigit, List.append_assoc]
      next =>
        have hjoined := ih hrest hnext
        rw [capitals, List.flatMap_cons, ← capitals, hjoined]
        simp only [capitals, List.flatMap_cons]

theorem joinOnto_eq_cons {words : List String}
    (h : ∀ word ∈ words, startsWithDigit word = false) (word : String) :
    joinOnto word words = word :: words := by
  induction words generalizing word with
  | nil => rfl
  | cons next rest ih =>
      rw [joinOnto, h next List.mem_cons_self, if_neg (by simp),
        ih fun other hother => h other (List.mem_cons_of_mem _ hother)]

/-- Joining keeps all characters. -/
theorem exists_mem_joinOnto {c : Char} {word : String} {words : List String}
    (h : ∃ part ∈ word :: words, c ∈ part.toList) :
    ∃ part ∈ joinOnto word words, c ∈ part.toList := by
  induction words generalizing word with
  | nil => exact h
  | cons next rest ih =>
      obtain ⟨part, hpart, hc⟩ := h
      rw [joinOnto]
      split
      next =>
        apply ih
        rcases List.mem_cons.mp hpart with rfl | hpart
        · exact ⟨_, List.mem_cons_self, by simp [hc]⟩
        · rcases List.mem_cons.mp hpart with rfl | hpart
          · exact ⟨_, List.mem_cons_self, by simp [hc]⟩
          · exact ⟨part, List.mem_cons_of_mem _ hpart, hc⟩
      next =>
        rcases List.mem_cons.mp hpart with rfl | hpart
        · exact ⟨part, List.mem_cons_self, hc⟩
        · obtain ⟨other, hother, hc⟩ := ih ⟨part, hpart, hc⟩
          exact ⟨other, List.mem_cons_of_mem _ hother, hc⟩

theorem startsWithDigit_eq_false {word : String} (h : ∀ c ∈ word.toList, c.isDigit = false) :
    startsWithDigit word = false := by
  unfold startsWithDigit
  cases hchars : word.toList with
  | nil => rfl
  | cons c cs => exact h c (by simp [hchars])

theorem joined_cons (word : String) (rest : List String) :
    joined ⟨word :: rest⟩ = ⟨joinOnto word rest⟩ := rfl

/-- Joining matters to names with digits only. -/
theorem joined_eq_iff_of_no_digit {name other : Name}
    (h : ∀ word ∈ other.words, ∀ c ∈ word.toList, c.isDigit = false) :
    name.joined = other ↔ name = other := by
  obtain ⟨words⟩ := name
  cases words with
  | nil => rfl
  | cons word rest =>
      rw [joined_cons]
      constructor
      · rintro rfl
        rw [joinOnto_eq_cons]
        intro next hnext
        apply startsWithDigit_eq_false
        intro c hc
        obtain ⟨part, hpart, hc⟩ :=
          exists_mem_joinOnto ⟨next, List.mem_cons_of_mem word hnext, hc⟩
        exact h part hpart c hc
      · rintro rfl
        rw [joinOnto_eq_cons]
        intro next hnext
        exact startsWithDigit_eq_false (h next (List.mem_cons_of_mem word hnext))

namespace IsProper

variable {name other : Name}

theorem className_joined (h : name.IsProper) : name.joined.className = name.className := by
  apply String.toList_inj.mp
  rw [className_toList, className_toList, joined]
  obtain ⟨word, rest, hwords⟩ := List.exists_cons_of_ne_nil h.words_ne_nil
  rw [hwords]
  exact capitals_joinOnto (fun _ hmem => h.isProperWord (by simp [hwords, hmem]))
    (h.isProperWord (by simp [hwords]))

/-- A class name spells the name that it was made of, once its words are joined. -/
theorem ofClassName_className (h : name.IsProper) : ofClassName name.className = name.joined := by
  obtain ⟨word, rest, hwords⟩ := List.exists_cons_of_ne_nil h.words_ne_nil
  have hword : IsProperWord word := h.isProperWord (by simp [hwords])
  obtain ⟨c, cs, hchars, hc, hcs⟩ := hword.exists_cons
  have hlower := toLower_toUpper_of_isSmallOrDigit hc
  rw [ofClassName, className_toList, joined, hwords, capitals_cons hword hchars]
  simp only [hlower]
  rw [cutAtCapitals_append hcs, List.singleton_append, ← hchars,
    cutAtCapitals_capitals fun _ hmem => h.isProperWord (by simp [hwords, hmem])]

/-- Class names agree exactly when the names do once their words are joined. -/
theorem className_eq_iff (h : name.IsProper) (hother : other.IsProper) :
    name.className = other.className ↔ name.joined = other.joined := by
  constructor
  · intro heq
    rw [← h.ofClassName_className, heq, hother.ofClassName_className]
  · intro heq
    rw [← h.className_joined, heq, hother.className_joined]

/-- The class name of a name without digits belongs to no other name. -/
theorem className_eq_iff_of_no_digit (h : name.IsProper) (hother : other.IsProper)
    (hdigit : ∀ word ∈ other.words, ∀ c ∈ word.toList, c.isDigit = false) :
    name.className = other.className ↔ name = other := by
  rw [h.className_eq_iff hother, (joined_eq_iff_of_no_digit hdigit).mpr rfl,
    joined_eq_iff_of_no_digit hdigit]

/-- A name has some class name exactly when it is what that text spells and the text is the class
name of what it spells. -/
theorem className_eq_text_iff (h : name.IsProper) {text : String} :
    name.className = text ↔
      name.joined = ofClassName text ∧ (ofClassName text).className = text := by
  constructor
  · rintro rfl
    rw [h.ofClassName_className]
    exact ⟨rfl, h.className_joined⟩
  · rintro ⟨hjoined, htext⟩
    rw [← htext, ← hjoined, h.className_joined]

end IsProper

end RubyClasses.Name
