import RubyClasses.Proofs.Name.Order
import RubyClasses.Proofs.Name.SnakeCase

/-! # The order of accessors

Names are ordered by their words and accessors by their characters. An underscore is smaller than
every small letter, so where a word ends it is smaller than every longer word, whatever follows. As
long as no digit occurs, names are therefore ordered like their accessors, also when an underscore
keeps a reserved word apart.
-/

namespace RubyClasses.Name

/-- No digit occurs in a name. -/
def isDigitless (name : Name) : Bool :=
  name.words.all fun word => word.toList.all fun c => !c.isDigit

theorem isDigitless_iff {name : Name} :
    name.isDigitless = true ↔ ∀ word ∈ name.words, ∀ c ∈ word.toList, c.isDigit = false := by
  simp [isDigitless]

/-- Of the characters in a name, only digits are smaller than an underscore. -/
theorem underscore_lt {c : Char} (hsmall : isSmallOrDigit c = true) (hdigit : c.isDigit = false) :
    '_' < c :=
  of_isWordChar (P := fun c => isSmallOrDigit c = true → c.isDigit = false → '_' < c)
    (by decide +kernel) (isWordChar_of_isSmallOrDigit hsmall) hsmall hdigit

/-- Words one behind the other, with an underscore in front of each. -/
def marked (words : List String) : List Char := words.flatMap fun word => '_' :: word.toList

theorem marked_cons (word : String) (words : List String) :
    marked (word :: words) = '_' :: (word.toList ++ marked words) := List.flatMap_cons

/-- A smaller word stays smaller when an underscore follows it or nothing does. -/
theorem append_lt_append {word other back : List Char} (h : word < other)
    (hother : ∀ c ∈ other, '_' < c) (hback : ∀ c ∈ back.head?, c = '_') (rest : List Char) :
    word ++ back < other ++ rest := by
  induction word generalizing other with
  | nil =>
      cases other with
      | nil => exact absurd h (List.not_lt_nil _)
      | cons d ds =>
          cases back with
          | nil => exact List.nil_lt_cons _ _
          | cons c cs =>
              have hc : c = '_' := hback c rfl
              exact List.cons_lt_cons_iff.mpr (.inl (hc ▸ hother d List.mem_cons_self))
  | cons c cs ih =>
      cases other with
      | nil => exact absurd h (List.not_lt_nil _)
      | cons d ds =>
          rcases List.cons_lt_cons_iff.mp h with hlt | ⟨rfl, hlt⟩
          · exact List.cons_lt_cons_iff.mpr (.inl hlt)
          · have hrest := ih hlt fun e he => hother e (List.mem_cons_of_mem _ he)
            exact List.cons_lt_cons_iff.mpr (.inr ⟨rfl, hrest⟩)

/-- Marked words are ordered like the words, even when one more underscore follows. -/
theorem marked_append_lt {words others : List String} (h : words < others)
    (hothers : ∀ word ∈ others, word.toList ≠ [] ∧ ∀ c ∈ word.toList, '_' < c)
    {back : List Char} (hback : back = [] ∨ back = ['_']) (rest : List Char) :
    marked words ++ back < marked others ++ rest := by
  induction words generalizing others with
  | nil =>
      cases others with
      | nil => exact absurd h (List.not_lt_nil _)
      | cons other others =>
          obtain ⟨c, cs, hchars⟩ :=
            List.exists_cons_of_ne_nil (hothers other List.mem_cons_self).1
          rw [marked_cons, hchars]
          rcases hback with rfl | rfl
          · exact List.nil_lt_cons _ _
          · exact List.cons_lt_cons_iff.mpr (.inr ⟨rfl, List.nil_lt_cons _ _⟩)
  | cons word words ih =>
      cases others with
      | nil => exact absurd h (List.not_lt_nil _)
      | cons other others =>
          obtain ⟨-, hother⟩ := hothers other List.mem_cons_self
          simp only [marked_cons, List.cons_append, List.append_assoc]
          refine List.cons_lt_cons_iff.mpr (.inr ⟨rfl, ?_⟩)
          rcases List.cons_lt_cons_iff.mp h with hlt | ⟨rfl, hlt⟩
          · refine append_lt_append (String.lt_iff_toList_lt.mp hlt) hother ?_ _
            -- behind the word there is the mark of the next one, or what ends the accessor
            cases words with
            | nil => rcases hback with rfl | rfl <;> simp [marked]
            | cons next words => simp [marked_cons]
          · exact List.append_left_lt
              (ih hlt fun word hword => hothers word (List.mem_cons_of_mem _ hword))

theorem intercalate_eq_append_marked (word : String) (words : List String) :
    ['_'].intercalate ((word :: words).map String.toList) = word.toList ++ marked words := by
  induction words generalizing word with
  | nil => simp [marked]
  | cons next words ih =>
      rw [List.map_cons, List.map_cons, List.intercalate_cons_cons, ← List.map_cons, ih,
        marked_cons, List.append_assoc, List.singleton_append]

/-- A name with one more underscore in front is made of marked words. -/
theorem marked_words {name : Name} (h : name.words ≠ []) :
    '_' :: name.toString.toList = marked name.words := by
  obtain ⟨word, words, hwords⟩ := List.exists_cons_of_ne_nil h
  rw [toString, String.toList_intercalate, hwords, marked_cons]
  exact congrArg ('_' :: ·) (intercalate_eq_append_marked word words)

/-- An accessor has the words of its name, and at most one underscore behind them. -/
theorem exists_marked_accessorName {name : Name} (h : name.words ≠ []) :
    ∃ back, (back = [] ∨ back = ['_']) ∧
      '_' :: name.accessorName.toList = marked name.words ++ back := by
  rw [← marked_words h]
  unfold accessorName
  split
  next => exact ⟨['_'], .inr rfl, by simp⟩
  next => exact ⟨[], .inl rfl, by simp⟩

namespace IsProper

variable {name other : Name}

/-- A smaller name has a smaller accessor, if the larger one has no digits. -/
theorem accessorName_lt (h : name.IsProper) (hother : other.IsProper)
    (hdigitless : other.isDigitless = true) (hlt : name < other) :
    name.accessorName < other.accessorName := by
  obtain ⟨back, hback, hname⟩ := exists_marked_accessorName h.words_ne_nil
  obtain ⟨rest, -, hrest⟩ := exists_marked_accessorName hother.words_ne_nil
  have hletters : ∀ word ∈ other.words, word.toList ≠ [] ∧ ∀ c ∈ word.toList, '_' < c := by
    intro word hword
    refine ⟨hother.word_ne_nil word hword, fun c hc => ?_⟩
    exact underscore_lt (hother.isSmallOrDigit word hword c hc)
      (isDigitless_iff.mp hdigitless word hword c hc)
  have hmarked := marked_append_lt hlt hletters hback rest
  rw [← hname, ← hrest, List.cons_lt_cons_iff] at hmarked
  exact String.lt_iff_toList_lt.mpr (hmarked.resolve_left (lt_irrefl _)).2

/-- Names without digits are ordered like their accessors. -/
theorem lt_iff_accessorName_lt (h : name.IsProper) (hother : other.IsProper)
    (hname : name.isDigitless = true) (hdigitless : other.isDigitless = true) :
    name < other ↔ name.accessorName < other.accessorName := by
  constructor
  · exact h.accessorName_lt hother hdigitless
  · intro hlt
    rcases lt_trichotomy name other with hnames | rfl | hnames
    · exact hnames
    · exact absurd hlt (lt_irrefl _)
    · exact absurd hlt (lt_asymm (hother.accessorName_lt h hname hnames))

end IsProper

/-- A digit is smaller than an underscore, so it can put an accessor in front of a smaller name. -/
example : Name.mk ["a", "b"] < Name.mk ["a1"] ∧
    (Name.mk ["a1"]).accessorName < (Name.mk ["a", "b"]).accessorName := by
  decide +kernel

end RubyClasses.Name
