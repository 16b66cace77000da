import Mathlib.Data.List.TakeWhile
import Mathlib.Data.Nat.Init
import RubyClasses.Proofs.Name.CamelCase
import RubyClasses.Text.Blank

/-! # The pattern of words

The words of a text can be described by a pattern whose alternatives are tried in order, whose
repetitions take as many characters as they can and give them back one by one, and which may look at
the characters behind a match. Its matches are searched for from left to right, and characters that
no match starts with are passed over. It makes no difference whether the text is cut at blanks,
underscores and dashes first.
-/

namespace RubyClasses

/-- Patterns of characters at the start of a text. -/
inductive Pattern where
  /-- One character of a class. -/
  | one (inClass : Char → Bool)
  /-- One character of a class, or else none. -/
  | optional (inClass : Char → Bool)
  /-- Characters of a class, at least one and as many as possible. -/
  | many (inClass : Char → Bool)
  /-- No character, where a pattern follows. -/
  | ahead (next : Pattern)
  /-- One pattern behind the other. -/
  | both (first second : Pattern)
  /-- The first pattern, or else the second one. -/
  | either (first second : Pattern)

namespace Pattern

/-- What is left behind one character of a class. -/
def behindOne (inClass : Char → Bool) : List Char → List (List Char)
  | [] => []
  | c :: rest => if inClass c then [rest] else []

/-- What is left behind characters of a class, most characters first. -/
def behindMany (inClass : Char → Bool) : List Char → List (List Char)
  | [] => []
  | c :: rest => if inClass c then behindMany inClass rest ++ [rest] else []

/-- What is left behind the matches at the start of a text, in the order in which they are tried. -/
def behind : Pattern → List Char → List (List Char)
  | one inClass, cs => behindOne inClass cs
  | optional inClass, cs => behindOne inClass cs ++ [cs]
  | many inClass, cs => behindMany inClass cs
  | ahead next, cs => if (next.behind cs).isEmpty then [] else [cs]
  | both first second, cs => (first.behind cs).flatMap second.behind
  | either first second, cs => first.behind cs ++ second.behind cs

/-- The matches in a text from left to right. An empty match counts as none. -/
def matchesIn (pattern : Pattern) : List Char → List (List Char)
  | [] => []
  | c :: rest =>
      match (pattern.behind (c :: rest)).head? with
      | some back =>
          if back.length ≤ rest.length then
            (c :: rest).take (rest.length + 1 - back.length) :: pattern.matchesIn back
          else pattern.matchesIn rest
      | none => pattern.matchesIn rest
  termination_by cs => cs.length

variable {inClass : Char → Bool} {c : Char} {rest : List Char}

theorem behindMany_of_neg (h : inClass c = false) : behindMany inClass (c :: rest) = [] := by
  simp [behindMany, h]

/-- As many characters as possible are taken first. -/
theorem head?_behindMany (h : inClass c = true) :
    (behindMany inClass (c :: rest)).head? = some (rest.dropWhile inClass) := by
  induction rest generalizing c with
  | nil => simp [behindMany, h]
  | cons d rest ih =>
      rw [behindMany, if_pos h, List.head?_append]
      cases hd : inClass d with
      | true => rw [ih hd, Option.some_or, List.dropWhile_cons_of_pos hd]
      | false =>
          rw [behindMany_of_neg hd, List.dropWhile_cons_of_neg (by simp [hd])]
          rfl

end Pattern

namespace Name

/-- A word starts with a capital and a small letter. -/
def startsCapitalized : List Char → Bool
  | d :: e :: _ => d.isUpper && e.isLower
  | _ => false

/-- The capitals in front of a word that starts with a capital and a small letter. -/
def capitalsPattern : Pattern :=
  .both (.many Char.isUpper) (.ahead (.both (.one Char.isUpper) (.one Char.isLower)))

/-- Small letters and digits, perhaps behind a capital. -/
def smallPattern : Pattern := .both (.optional Char.isUpper) (.many isSmallOrDigit)

/-- A word in a text: capitals, if the next word starts with a capital and a small letter; or else
small letters and digits, perhaps behind a capital; or else capitals and digits. -/
def wordPattern : Pattern :=
  .either capitalsPattern (.either smallPattern (.many isCapitalOrDigit))

/-- Characters that a text is cut at to find its names: blanks, underscores and dashes. -/
def isBreak (c : Char) : Bool := Text.isBlank c || c = '_' || c = '-'

theorem isSmallOrDigit_eq_false_of_isUpper {c : Char} (h : c.isUpper = true) :
    isSmallOrDigit c = false := by
  by_contra hsmall
  rw [isUpper_eq_false_of_isSmallOrDigit (by simpa using hsmall)] at h
  cases h

theorem kinds_of_not_isSmallOrDigit {c : Char} (h : isSmallOrDigit c = false) :
    c.isLower = false ∧ c.isDigit = false := by
  rwa [isSmallOrDigit, Bool.or_eq_false_iff] at h

theorem isLower_eq_false_of_isUpper {c : Char} (h : c.isUpper = true) : c.isLower = false :=
  (kinds_of_not_isSmallOrDigit (isSmallOrDigit_eq_false_of_isUpper h)).1

theorem isCapitalOrDigit_eq_false {c : Char} (hupper : c.isUpper = false)
    (hsmall : isSmallOrDigit c = false) : isCapitalOrDigit c = false := by
  rw [isCapitalOrDigit, hupper, (kinds_of_not_isSmallOrDigit hsmall).2, Bool.or_false]

/-- The pattern of words has no class for characters that are neither letters nor digits. -/
theorem kinds_of_not_isWordChar {c : Char} (h : isWordChar c = false) :
    c.isUpper = false ∧ isSmallOrDigit c = false ∧ isCapitalOrDigit c = false := by
  rw [isWordChar_eq, Bool.or_eq_false_iff] at h
  exact ⟨h.1, h.2, isCapitalOrDigit_eq_false h.1 h.2⟩

theorem drop_length_takeWhile (p : Char → Bool) (cs : List Char) :
    cs.drop (cs.takeWhile p).length = cs.dropWhile p := by
  induction cs with
  | nil => rfl
  | cons c rest ih => cases hc : p c <;> simp [hc, ih]

section Alternatives

variable {c : Char} {rest : List Char}

theorem head?_behind_capitalsPattern (cs : List Char) :
    (capitalsPattern.behind cs).head? =
      (Pattern.behindMany Char.isUpper cs).find? startsCapitalized := by
  have hahead : ∀ back : List Char,
      ((Pattern.ahead (.both (.one Char.isUpper) (.one Char.isLower))).behind back).head? =
        Option.guard (fun back => startsCapitalized back) back := by
    intro back
    rcases back with _ | ⟨d, _ | ⟨e, rest⟩⟩
    · rfl
    · cases hd : d.isUpper <;>
        simp [Pattern.behind, Pattern.behindOne, startsCapitalized, Option.guard, hd]
    · cases hd : d.isUpper <;> cases he : e.isLower <;>
        simp [Pattern.behind, Pattern.behindOne, startsCapitalized, Option.guard, hd, he]
  rw [capitalsPattern, Pattern.behind, List.head?_flatMap, Pattern.behind, funext hahead,
    List.find?_eq_findSome?_guard]

/-- Capitals before a small letter leave it the last one of them. -/
theorem find?_behindMany (hc : c.isUpper = true) :
    (Pattern.behindMany Char.isUpper (c :: rest)).find? startsCapitalized =
      if rest.takeWhile Char.isUpper ≠ [] ∧
          (rest.dropWhile Char.isUpper).head?.any Char.isLower = true then
        some ((c :: rest).drop (rest.takeWhile Char.isUpper).length)
      else none := by
  induction rest generalizing c with
  | nil => simp [Pattern.behindMany, hc, startsCapitalized]
  | cons d rest ih =>
      cases hd : d.isUpper with
      | false =>
          have hnone : startsCapitalized (d :: rest) = false := by
            cases rest <;> simp [startsCapitalized, hd]
          simp [Pattern.behindMany, hc, hd, hnone]
      | true =>
          rw [Pattern.behindMany, if_pos hc, List.find?_append, ih hd]
          cases rest with
          | nil => simp [startsCapitalized, hd]
          | cons e es =>
              cases he : e.isUpper with
              | true =>
                  -- one of the further capitals is the last one
                  have hnone : startsCapitalized (d :: e :: es) = false := by
                    simp [startsCapitalized, isLower_eq_false_of_isUpper he]
                  simp [hd, he, hnone]
              | false => cases hlower : e.isLower <;> simp [startsCapitalized, hd, he, hlower]

theorem behind_smallPattern_of_isUpper (hc : c.isUpper = true) :
    smallPattern.behind (c :: rest) = Pattern.behindMany isSmallOrDigit rest := by
  have hsmall := isSmallOrDigit_eq_false_of_isUpper hc
  simp [smallPattern, Pattern.behind, Pattern.behindOne, hc, Pattern.behindMany_of_neg hsmall]

theorem behind_smallPattern_of_not_isUpper (hc : c.isUpper = false) :
    smallPattern.behind (c :: rest) = Pattern.behindMany isSmallOrDigit (c :: rest) := by
  simp [smallPattern, Pattern.behind, Pattern.behindOne, hc]

/-- No word starts where no letter or digit is. -/
theorem behind_wordPattern_of_not_isWordChar (hc : isWordChar c = false) :
    wordPattern.behind (c :: rest) = [] := by
  obtain ⟨hupper, hsmall, hcapital⟩ := kinds_of_not_isWordChar hc
  rw [wordPattern, Pattern.behind, Pattern.behind, behind_smallPattern_of_not_isUpper hupper,
    Pattern.behindMany_of_neg hsmall, Pattern.behind, Pattern.behindMany_of_neg hcapital,
    capitalsPattern, Pattern.behind, Pattern.behind, Pattern.behindMany_of_neg hupper]
  rfl

/-- No small letter or digit follows where nothing but a capital does. -/
theorem behindMany_of_capital (h : ∀ d ds, rest = d :: ds → d.isUpper = true) :
    Pattern.behindMany isSmallOrDigit rest = [] := by
  cases rest with
  | nil => rfl
  | cons d ds =>
      exact Pattern.behindMany_of_neg (isSmallOrDigit_eq_false_of_isUpper (h d ds rfl))

/-- Where no capital follows, small letters and digits are taken or nothing is. -/
theorem head?_behindMany_or (h : rest.takeWhile Char.isUpper = []) :
    (Pattern.behindMany isSmallOrDigit rest).head?.or (some (rest.dropWhile isCapitalOrDigit)) =
      some (rest.dropWhile isSmallOrDigit) := by
  cases rest with
  | nil => rfl
  | cons d ds =>
      have hd : d.isUpper = false := by
        by_contra hd
        rw [List.takeWhile_cons_of_pos (by simpa using hd)] at h
        cases h
      cases hsmall : isSmallOrDigit d with
      | true =>
          rw [Pattern.head?_behindMany hsmall, List.dropWhile_cons_of_pos hsmall, Option.some_or]
      | false =>
          have hcapital := isCapitalOrDigit_eq_false hd hsmall
          rw [Pattern.behindMany_of_neg hsmall, List.dropWhile_cons_of_neg (by simp [hcapital]),
            List.dropWhile_cons_of_neg (by simp [hsmall])]
          rfl

theorem drop_one_add_takeWhile (p : Char → Bool) (c : Char) (rest : List Char) :
    (c :: rest).drop (1 + (rest.takeWhile p).length) = rest.dropWhile p := by
  rw [Nat.add_comm, List.drop_succ_cons, drop_length_takeWhile]

/-- Where a capital stands, the alternatives are tried in the order in which the length of the first
word is chosen. -/
theorem head?_behind_of_isUpper (hc : c.isUpper = true) :
    (wordPattern.behind (c :: rest)).head? = some ((c :: rest).drop (firstWordLength c rest)) := by
  have hcapital : isCapitalOrDigit c = true := by simp [isCapitalOrDigit, hc]
  rw [wordPattern, Pattern.behind, List.head?_append, head?_behind_capitalsPattern,
    find?_behindMany hc, Pattern.behind, List.head?_append, behind_smallPattern_of_isUpper hc,
    Pattern.behind, Pattern.head?_behindMany hcapital, firstWordLength, if_pos hc]
  cases hdrop : rest.dropWhile Char.isUpper with
  | nil =>
      -- there are capitals only, and the last alternative takes them all
      have hupper : ∀ d ∈ rest, d.isUpper = true := List.dropWhile_eq_nil_iff.mp hdrop
      have hlast : rest.dropWhile isCapitalOrDigit = [] :=
        List.dropWhile_eq_nil_iff.mpr fun d hd => by simp [isCapitalOrDigit, hupper d hd]
      have hnone : Pattern.behindMany isSmallOrDigit rest = [] := by
        apply behindMany_of_capital
        rintro d ds rfl
        exact hupper d List.mem_cons_self
      dsimp only
      rw [hnone, hlast, drop_one_add_takeWhile, hdrop]
      simp
  | cons d ds =>
      dsimp only
      by_cases hcapitals : rest.takeWhile Char.isUpper = []
      · rw [if_neg (by simp [hcapitals]), if_pos hcapitals, drop_one_add_takeWhile, Option.none_or,
          head?_behindMany_or hcapitals]
      · have hnone : Pattern.behindMany isSmallOrDigit rest = [] := by
          apply behindMany_of_capital
          rintro e es rfl
          by_contra he
          exact hcapitals (List.takeWhile_cons_of_neg he)
        rw [if_neg hcapitals, hnone]
        cases hlower : d.isLower with
        | true =>
            -- the last capital belongs to the next word
            simp [hcapitals, hlower]
        | false =>
            rw [if_neg (by simp [hlower]), if_neg (by simp), drop_one_add_takeWhile]
            rfl

/-- The pattern finds the first word of a run. -/
theorem head?_behind_wordPattern (hc : isWordChar c = true) :
    (wordPattern.behind (c :: rest)).head? =
      some ((c :: rest).drop (firstWordLength c rest)) := by
  cases hupper : c.isUpper with
  | true => exact head?_behind_of_isUpper hupper
  | false =>
      have hsmall : isSmallOrDigit c = true := by simpa [isWordChar_eq, hupper] using hc
      rw [wordPattern, Pattern.behind, List.head?_append, head?_behind_capitalsPattern,
        Pattern.behindMany_of_neg hupper, Pattern.behind, List.head?_append,
        behind_smallPattern_of_not_isUpper hupper, Pattern.head?_behindMany hsmall,
        firstWordLength_of_small (.inl hupper), drop_one_add_takeWhile]
      rfl

end Alternatives

section Matches

open Pattern (matchesIn)

variable {c : Char} {rest : List Char}

theorem matchesIn_of_not_isWordChar (hc : isWordChar c = false) :
    wordPattern.matchesIn (c :: rest) = wordPattern.matchesIn rest := by
  rw [matchesIn, behind_wordPattern_of_not_isWordChar hc]
  rfl

theorem firstWordLength_le (c : Char) (rest : List Char) :
    firstWordLength c rest ≤ (c :: rest).length := by
  have hbound : ∀ p : Char → Bool, (rest.takeWhile p).length ≤ rest.length :=
    fun p => (List.takeWhile_prefix p).length_le
  have hupper := hbound Char.isUpper
  have hsmall := hbound isSmallOrDigit
  have hcapital := hbound isCapitalOrDigit
  rw [List.length_cons]
  unfold firstWordLength
  dsimp only
  repeat' split
  all_goals omega

theorem matchesIn_of_isWordChar (hc : isWordChar c = true) :
    wordPattern.matchesIn (c :: rest) = (c :: rest).take (firstWordLength c rest) ::
      wordPattern.matchesIn ((c :: rest).drop (firstWordLength c rest)) := by
  have hpos := firstWordLength_pos c rest
  have hle := firstWordLength_le c rest
  rw [List.length_cons] at hle
  have hlength : ((c :: rest).drop (firstWordLength c rest)).length =
      rest.length + 1 - firstWordLength c rest := by rw [List.length_drop, List.length_cons]
  rw [matchesIn, head?_behind_wordPattern hc]
  dsimp only
  rw [hlength, if_pos (by omega), Nat.sub_sub_self hle]

section Locality

variable {p : Char → Bool} {tail : List Char}

theorem takeWhile_append_of_stops (h : ∀ d ds, tail = d :: ds → p d = false) (cs : List Char) :
    (cs ++ tail).takeWhile p = cs.takeWhile p := by
  induction cs with
  | nil =>
      cases tail with
      | nil => rfl
      | cons d ds => exact List.takeWhile_cons_of_neg (by simp [h d ds rfl])
  | cons c rest ih => cases hc : p c <;> simp [hc, ih]

theorem dropWhile_append_of_stops (h : ∀ d ds, tail = d :: ds → p d = false) (cs : List Char) :
    (cs ++ tail).dropWhile p = cs.dropWhile p ++ tail := by
  induction cs with
  | nil =>
      cases tail with
      | nil => rfl
      | cons d ds => exact List.dropWhile_cons_of_neg (by simp [h d ds rfl])
  | cons c rest ih => cases hc : p c <;> simp [hc, ih]

/-- The first word of a run does not depend on what stands behind the run. -/
theorem firstWordLength_append (htail : ∀ d ds, tail = d :: ds → isWordChar d = false) :
    firstWordLength c (rest ++ tail) = firstWordLength c rest := by
  have hkinds := fun d ds heq => kinds_of_not_isWordChar (htail d ds heq)
  have hupper := fun d ds heq => (hkinds d ds heq).1
  have hsmall := fun d ds heq => (hkinds d ds heq).2.1
  have hcapital := fun d ds heq => (hkinds d ds heq).2.2
  unfold firstWordLength
  rw [takeWhile_append_of_stops hupper, takeWhile_append_of_stops hsmall,
    takeWhile_append_of_stops hcapital, dropWhile_append_of_stops hupper]
  cases hdrop : rest.dropWhile Char.isUpper with
  | cons d ds => rfl
  | nil =>
      cases tail with
      | nil => rfl
      | cons d ds =>
          -- capitals only: what is behind them is no small letter, so all of them are one word
          have hall : ∀ e ∈ rest, e.isUpper = true := List.dropWhile_eq_nil_iff.mp hdrop
          have hcapitals : rest.takeWhile Char.isUpper = rest := List.takeWhile_eq_self_iff.mpr hall
          have hlast : rest.takeWhile isCapitalOrDigit = rest :=
            List.takeWhile_eq_self_iff.mpr fun e he => by simp [isCapitalOrDigit, hall e he]
          have hlower : d.isLower = false := (kinds_of_not_isSmallOrDigit (hsmall d ds rfl)).1
          rw [hcapitals, hlast, List.nil_append]
          cases rest with
          | nil => rfl
          | cons e es => simp [hlower]

end Locality

/-- A character that is neither a letter nor a digit separates the matches in front of it from those
behind it. -/
theorem matchesIn_append_cons (hc : isWordChar c = false) (front back : List Char) :
    wordPattern.matchesIn (front ++ c :: back) =
      wordPattern.matchesIn front ++ wordPattern.matchesIn back := by
  -- every step passes over a character in front of the separator, or over a word
  induction hlength : front.length using Nat.strong_induction_on generalizing front with
  | h length ih =>
      cases front with
      | nil => rw [List.nil_append, matchesIn_of_not_isWordChar hc, matchesIn, List.nil_append]
      | cons d rest =>
          cases hd : isWordChar d with
          | false =>
              rw [List.cons_append, matchesIn_of_not_isWordChar hd, matchesIn_of_not_isWordChar hd]
              exact ih rest.length (by simp [← hlength]) rest rfl
          | true =>
              have hlocal : firstWordLength d (rest ++ c :: back) = firstWordLength d rest := by
                apply firstWordLength_append
                rintro _ _ ⟨⟩
                exact hc
              have hle := firstWordLength_le d rest
              rw [List.cons_append, matchesIn_of_isWordChar hd, matchesIn_of_isWordChar hd, hlocal,
                ← List.cons_append, List.take_append_of_le_length hle,
                List.drop_append_of_le_length hle, List.cons_append, List.cons_inj_right]
              have hpos := firstWordLength_pos d rest
              refine ih _ ?_ _ rfl
              rw [← hlength, List.length_drop, List.length_cons]
              omega

/-- The matches in a run are its words. -/
theorem matchesIn_eq_splitRun {run : List Char} (h : ∀ c ∈ run, isWordChar c = true) :
    wordPattern.matchesIn run = splitRun run := by
  induction run using splitRun.induct with
  | case1 => rw [matchesIn, splitRun]
  | case2 c rest n ih =>
      rw [matchesIn_of_isWordChar (h c List.mem_cons_self), splitRun,
        ih fun d hd => h d (List.mem_of_mem_drop hd)]

end Matches

theorem isWordChar_eq_false_of_isBreak {c : Char} (h : isBreak c = true) :
    isWordChar c = false := by
  cases hc : isWordChar c with
  | false => rfl
  | true =>
      have hbreak := of_isWordChar (P := fun c => isBreak c = false) (by decide +kernel) hc
      rw [h] at hbreak
      cases hbreak

/-- The pattern finds the same matches when the text is cut at blanks, underscores and dashes. -/
theorem flatMap_matchesIn (cs : List Char) :
    (Text.partsBetween isBreak cs).flatMap wordPattern.matchesIn = wordPattern.matchesIn cs :=
  Text.flatMap_partsBetween
    (fun _ front back hc => matchesIn_append_cons (isWordChar_eq_false_of_isBreak hc) front back) cs

/-- The words of a text are what the pattern finds in it. -/
theorem wordsOf_eq_matchesIn (cs : List Char) :
    wordsOf cs = (wordPattern.matchesIn cs).map lowered := by
  have hruns : (runs cs).flatMap splitRun =
      (Text.partsBetween (fun c => !isWordChar c) cs).flatMap splitRun := by
    rw [runs]
    induction Text.partsBetween (fun c => !isWordChar c) cs with
    | nil => rfl
    | cons part parts ih => cases part <;> simp [splitRun, ih]
  have hparts : (Text.partsBetween (fun c => !isWordChar c) cs).flatMap splitRun =
      (Text.partsBetween (fun c => !isWordChar c) cs).flatMap wordPattern.matchesIn := by
    refine List.flatMap_congr fun part hpart => (matchesIn_eq_splitRun fun c hc => ?_).symm
    simpa using Text.partsBetween_mem hpart c hc
  have hwhole : (Text.partsBetween (fun c => !isWordChar c) cs).flatMap wordPattern.matchesIn =
      wordPattern.matchesIn cs :=
    Text.flatMap_partsBetween
      (fun _ front back hc => matchesIn_append_cons (by simpa using hc) front back) cs
  rw [wordsOf, hruns, hparts, hwhole]
  rfl

end Name

end RubyClasses
