import RubyClasses.Proofs.Classes.Wording

/-! # The looks of lines

A line looks like the start of a block or like the end of one because of the word that it begins
with or the character that it ends with. For most lines, the first character tells that they look
like neither.
-/

namespace RubyClasses.Line

/-- A line opens a module, a class, a method, a condition or a loop over elements. -/
def isHead (text : String) : Bool :=
  startsWithAny ["module ", "class ", "def ", "if "] text || endsWithAny ['|'] text

/-- A line that looks like neither end of a block. -/
structure IsPlain (text : String) : Prop where
  flush : unindented text = text
  not_opens : opens text = false
  not_closes : closes text = false

/-- A line that opens a scope and looks like the start of a block only. -/
structure IsHeader (text : String) : Prop where
  flush : unindented text = text
  heads : isHead text = true
  not_closes : closes text = false

theorem startsWithAny_mono {starts more : List String} (hsub : starts ⊆ more) {text : String}
    (h : startsWithAny starts text = true) : startsWithAny more text = true := by
  obtain ⟨start, hstart, hprefix⟩ := List.any_eq_true.mp h
  exact List.any_eq_true.mpr ⟨start, hsub hstart, hprefix⟩

theorem endsWithAny_mono {ends more : List Char} (hsub : ends ⊆ more) {text : String}
    (h : endsWithAny ends text = true) : endsWithAny more text = true := by
  unfold endsWithAny at h ⊢
  cases hlast : text.toList.getLast? with
  | none => simp [hlast] at h
  | some c =>
      simp only [hlast, Option.map_some, Option.getD_some, List.contains_iff_mem] at h ⊢
      exact hsub h

/-- What opens a module, a class, a method, a condition or a loop looks like the start of a block.
-/
theorem opens_of_isHead {text : String} (h : isHead text = true) : opens text = true := by
  unfold isHead at h
  unfold opens
  rw [Bool.or_eq_true] at h ⊢
  rcases h with h | h
  · exact .inr (startsWithAny_mono (by simp) h)
  · rw [Bool.or_eq_true]
    exact .inl (.inl (endsWithAny_mono (by simp) h))

theorem IsPlain.isHead_eq_false {text : String} (h : IsPlain text) : isHead text = false := by
  by_contra hhead
  have hopens := opens_of_isHead (Bool.not_eq_false _ ▸ hhead)
  rw [h.not_opens] at hopens
  cases hopens

theorem ne_end {text : String} (h : closes text = false) : text ≠ "end" := by
  rintro rfl
  revert h
  decide

theorem end_isHead_eq_false : isHead "end" = false := by decide

/-- The words that the end of a block may begin with. -/
def closingWords : List String := [")", "]", "else", "end", "ensure", "when "]

/-- The words that the start of a block may begin with. -/
def openingWords : List String := [
  "begin", "else", "ensure", "case ", "class ", "def ", "if ", "loop ", "module ", "unless ",
  "when ", "while "]

variable {line : String} {c d : Char}

theorem startsWithAny_self {starts : List String} (h : line ∈ starts) :
    startsWithAny starts line = true := by
  apply List.any_eq_true.mpr
  exact ⟨line, h, List.isPrefixOf_iff_prefix.mpr List.prefix_rfl⟩

theorem startsWithAny_eq_false_of_subset {starts more : List String} (hsub : starts ⊆ more)
    (h : startsWithAny more line = false) : startsWithAny starts line = false := by
  by_contra hstarts
  rw [startsWithAny_mono hsub (Bool.not_eq_false _ ▸ hstarts)] at h
  cases h

theorem contains_eq_false_of_subset {starts more : List String} (hsub : starts ⊆ more)
    (h : startsWithAny more line = false) : starts.contains line = false := by
  by_contra hmem
  have hline : line ∈ starts := by simpa using hmem
  rw [startsWithAny_self (hsub hline)] at h
  cases h

/-- A line begins with none of some words when its first character is the first one of none. -/
theorem startsWithAny_eq_false_of_head? {starts : List String} (hhead : line.toList.head? = some c)
    (hstarts : ∀ word ∈ starts, word.toList.head?.any (· != c) = true) :
    startsWithAny starts line = false := by
  apply List.any_eq_false.mpr
  intro word hword
  have hfirst := hstarts word hword
  cases hchars : word.toList with
  | nil => simp [hchars] at hfirst
  | cons first more =>
      cases hline : line.toList with
      | nil => simp [hline] at hhead
      | cons found rest =>
          simp_all [List.isPrefixOf]

/-- The lines that begin with one of some words, without their indentation. -/
def startingWith (starts lines : List String) : List String :=
  (lines.map unindented).filter (startsWithAny starts)

theorem startingWith_append (starts first second : List String) :
    startingWith starts (first ++ second) =
      startingWith starts first ++ startingWith starts second := by
  simp [startingWith]

theorem startingWith_flatten (starts : List String) (parts : List (List String)) :
    startingWith starts parts.flatten = parts.flatMap (startingWith starts) := by
  induction parts with
  | nil => rfl
  | cons part parts ih => rw [List.flatten_cons, startingWith_append, ih, List.flatMap_cons]

/-- Which lines begin with some words does not depend on the level of an outline. -/
theorem startingWith_linesAt (starts : List String) (level : Nat) (o : Outline) :
    startingWith starts (o.linesAt level) = startingWith starts o.texts := by
  rw [startingWith, Outline.map_unindented_linesAt, startingWith]

/-- A line begins neither with a blank nor with one of some characters. -/
def startsApart (firsts : List Char) (line : String) : Bool :=
  line.toList.head?.all fun c => c != ' ' && !firsts.contains c

/-- Lines that begin with other characters than some words begin with none of the words. -/
theorem startingWith_eq_nil {starts : List String} (firsts : List Char)
    (hstarts : ∀ word ∈ starts, ∃ c ∈ firsts, word.toList.head? = some c) {lines : List String}
    (h : ∀ line ∈ lines, startsApart firsts line = true) : startingWith starts lines = [] := by
  apply List.filter_eq_nil_iff.mpr
  intro text hmem
  obtain ⟨line, hline, rfl⟩ := List.mem_map.mp hmem
  have hstart := h line hline
  rw [Bool.not_eq_true]
  cases hhead : line.toList.head? with
  | none =>
      have hempty : line = "" := String.toList_injective (List.head?_eq_none_iff.mp hhead)
      apply List.any_eq_false.mpr
      intro word hword
      obtain ⟨c, -, hc⟩ := hstarts word hword
      obtain ⟨rest, hchars⟩ := List.head?_eq_some_iff.mp hc
      simp [hempty, hchars, unindented]
  | some d =>
      simp only [startsApart, hhead, Option.all_some, Bool.and_eq_true, bne_iff_ne,
        Bool.not_eq_true', List.contains_eq_mem, decide_eq_false_iff_not] at hstart
      rw [unindented_eq_self (by simpa [hhead] using hstart.1)]
      apply startsWithAny_eq_false_of_head? hhead
      intro word hword
      obtain ⟨c, hmem, hc⟩ := hstarts word hword
      simpa [hc] using ne_of_mem_of_not_mem hmem hstart.2

/-- A line with none of the closing words at its start looks like no end of a block. -/
theorem closes_eq_false (h : startsWithAny closingWords line = false) : closes line = false := by
  rw [closes, contains_eq_false_of_subset (by decide) h,
    startsWithAny_eq_false_of_subset (by decide) h]
  rfl

/-- A line with none of the opening words at its start looks like no start of a block, unless it
ends open. -/
theorem opens_eq_false (h : startsWithAny openingWords line = false)
    (hlast : line.toList.getLast? = some d) (hd : d ∉ ['(', '[', '|']) : opens line = false := by
  have hends : endsWithAny ['(', '[', '|'] line = false := by
    simpa [endsWithAny, hlast] using hd
  rw [opens, hends, contains_eq_false_of_subset (by decide) h,
    startsWithAny_eq_false_of_subset (by decide) h]
  rfl

/-- The first characters of the words that start or end a block, and the space of an indentation. -/
def wordStarts : List Char := [' ', 'b', 'c', 'd', 'e', 'i', 'l', 'm', 'u', 'w', ')', ']']

/-- Most lines are plain because of their first character and their last one. -/
theorem IsPlain.of_ends (hhead : line.toList.head? = some c) (hc : c ∉ wordStarts)
    (hlast : line.toList.getLast? = some d) (hd : d ∉ ['(', '[', '|']) : IsPlain line := by
  have hwords : ∀ starts : List String,
      (∀ word ∈ starts, word.toList.head?.any (wordStarts.contains ·) = true) →
      startsWithAny starts line = false := by
    intro starts hstarts
    apply startsWithAny_eq_false_of_head? hhead
    intro word hword
    have hfirst := hstarts word hword
    cases hchars : word.toList.head? with
    | none => simp [hchars] at hfirst
    | some first =>
        rw [hchars] at hfirst
        have hmem : first ∈ wordStarts := by simpa using hfirst
        simpa using ne_of_mem_of_not_mem hmem hc
  refine ⟨?_, opens_eq_false (hwords _ (by decide)) hlast hd,
    closes_eq_false (hwords _ (by decide))⟩
  apply unindented_eq_self
  rw [hhead]
  rintro ⟨⟩
  exact hc List.mem_cons_self

/-- The words with which the headers of modules, classes, methods and conditions begin. -/
def headerWords : List String := ["module ", "class ", "def ", "if "]

/-- A line that begins with the word of a header is one, whatever follows. -/
theorem IsHeader.of_start {word : String} (hword : word ∈ headerWords)
    (hfirst : word.toList.head? = some c) (hc : c ≠ ' ')
    (hcloses : ∀ other ∈ closingWords, other.toList.head?.any (· != c) = true) (rest : String) :
    IsHeader (word ++ rest) := by
  have hhead : (word ++ rest).toList.head? = some c := by
    simp [String.toList_append, List.head?_append, hfirst]
  refine ⟨unindented_eq_self ?_, ?_, ?_⟩
  · rw [hhead]
    simpa using hc
  · rw [isHead, Bool.or_eq_true]
    left
    apply List.any_eq_true.mpr
    refine ⟨word, hword, List.isPrefixOf_iff_prefix.mpr ?_⟩
    rw [String.toList_append]
    exact List.prefix_append _ _
  · exact closes_eq_false (startsWithAny_eq_false_of_head? hhead hcloses)

/-- The line of a module is a header, whatever the module is called. -/
theorem isHeader_module (rest : String) : IsHeader ("module " ++ rest) :=
  .of_start (c := 'm') (by decide) (by decide) (by decide) (by decide) rest

theorem isHeader_class (rest : String) : IsHeader ("class " ++ rest) :=
  .of_start (c := 'c') (by decide) (by decide) (by decide) (by decide) rest

theorem isHeader_def (rest : String) : IsHeader ("def " ++ rest) :=
  .of_start (c := 'd') (by decide) (by decide) (by decide) (by decide) rest

theorem getLast?_append_of_some {first last : String} (h : last.toList.getLast? = some d) :
    (first ++ last).toList.getLast? = some d := by
  simp [String.toList_append, List.getLast?_append, h]

/-- A line of which no character continues it on the next line. -/
theorem IsPlain.of_chars (hhead : line.toList.head? = some c) (hc : c ∉ wordStarts)
    (hchars : ∀ d ∈ line.toList, d ∉ ['(', '[', '|']) : IsPlain line := by
  cases hlast : line.toList.getLast? with
  | none =>
      rw [List.getLast?_eq_none_iff] at hlast
      simp [hlast] at hhead
  | some d => exact .of_ends hhead hc hlast (hchars d (List.mem_of_getLast? hlast))

/-- The lines that look like the end of a block as well as like the start of one. -/
theorem opens_and_closes_iff (text : String) :
    (opens text = true ∧ closes text = true) ↔
      text = "else" ∨ text = "ensure" ∨ startsWithAny ["when "] text = true := by
  have hwhen : startsWithAny ["when "] text = true → opens text = true := by
    intro hstarts
    rw [opens, startsWithAny_mono (by simp) hstarts, Bool.or_true]
  constructor
  · rintro ⟨hopens, hcloses⟩
    rw [closes, Bool.or_eq_true, List.contains_iff_mem] at hcloses
    rcases hcloses with hmem | hstarts
    · simp only [List.mem_cons, List.not_mem_nil, or_false] at hmem
      rcases hmem with rfl | rfl | rfl | rfl | rfl
      · exact absurd hopens (by decide)
      · exact absurd hopens (by decide)
      · exact .inl rfl
      · exact absurd hopens (by decide)
      · exact .inr (.inl rfl)
    · exact .inr (.inr hstarts)
  · rintro (rfl | rfl | hstarts)
    · decide
    · decide
    · exact ⟨hwhen hstarts, by rw [closes, hstarts, Bool.or_true]⟩

end RubyClasses.Line
