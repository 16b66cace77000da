import RubyClasses.Proofs.Name.CamelCase
import RubyClasses.Proofs.Name.Separators

/-! # Reading names in snake case

The words of a name are small letters and digits, which are never cut, and an underscore belongs to
no word. So a name in snake case is read as the name that it was made of, also when it is reserved
and has one more underscore behind it, and different names have different accessors. Constants are
told apart by the same letters in capitals.
-/

namespace RubyClasses.Name

/-- Small letters and digits are one word. -/
theorem splitRun_of_isSmallOrDigit {run : List Char} (hne : run ≠ [])
    (h : ∀ c ∈ run, isSmallOrDigit c = true) : splitRun run = [run] := by
  obtain ⟨c, rest, rfl⟩ := List.exists_cons_of_ne_nil hne
  have hc := isUpper_eq_false_of_isSmallOrDigit (h c List.mem_cons_self)
  have hrest : rest.takeWhile isSmallOrDigit = rest :=
    List.takeWhile_eq_self_iff.mpr fun d hd => h d (List.mem_cons_of_mem _ hd)
  have hcut : firstWordLength c rest = (c :: rest).length := by
    rw [firstWordLength_of_small (.inl hc), hrest, List.length_cons, Nat.add_comm]
  rw [splitRun, hcut, List.take_length, List.drop_length, splitRun]

/-- A word is read as itself. -/
theorem IsProperWord.wordsOf_eq {word : String} (h : IsProperWord word) :
    wordsOf word.toList = [word] := by
  have hlower : word.toList.map Char.toLower = word.toList :=
    map_eq_self fun c hc => toLower_of_isSmallOrDigit (h.isSmallOrDigit c hc)
  rw [wordsOf_run h.ne_nil fun c hc => isWordChar_of_isSmallOrDigit (h.isSmallOrDigit c hc),
    splitRun_of_isSmallOrDigit h.ne_nil h.isSmallOrDigit, List.map_singleton, lowered, hlower,
    String.ofList_toList]

/-- No reserved word ends with an underscore, so an underscore behind one makes it another word. -/
theorem accessorName_notMem_reservedWords (name : Name) : name.accessorName ∉ reservedWords := by
  have hends : ∀ word ∈ reservedWords, word.toList.getLast? ≠ some '_' := by decide +kernel
  unfold accessorName
  split
  next => exact fun hmem => hends _ hmem (by simp)
  next hfree => exact hfree

namespace IsProper

variable {name other : Name}

theorem wordsOf_toString (h : name.IsProper) : wordsOf name.toString.toList = name.words :=
  calc
    wordsOf name.toString.toList = name.words.flatMap fun word => wordsOf word.toList := by
      have hwords := wordsOf_intercalate (c := '_') rfl (name.words.map String.toList)
      rw [List.flatMap_map] at hwords
      rw [toString, String.toList_intercalate]
      exact hwords
    _ = name.words.flatMap fun word => [word] :=
      List.flatMap_congr fun _ hword => (h.isProperWord hword).wordsOf_eq
    _ = name.words := List.flatMap_singleton' _

/-- A name in snake case is read as this name. -/
theorem ofText?_toString (h : name.IsProper) : ofText? name.toString = some name :=
  (ofText?_eq_some_iff h.words_ne_nil).mpr h.wordsOf_toString

/-- An accessor is read as the name that it was made of. -/
theorem ofText?_accessorName (h : name.IsProper) : ofText? name.accessorName = some name := by
  rw [ofText?_eq_some_iff h.words_ne_nil, accessorName]
  split
  next =>
    have hsuffix := wordsOf_append_cons (c := '_') rfl name.toString.toList []
    rw [wordsOf_nil, List.append_nil, h.wordsOf_toString] at hsuffix
    rw [String.toList_append]
    exact hsuffix
  next => exact h.wordsOf_toString

theorem accessorName_injective (h : name.IsProper) (hother : other.IsProper)
    (heq : name.accessorName = other.accessorName) : name = other := by
  have hread := h.ofText?_accessorName
  rw [heq, hother.ofText?_accessorName] at hread
  exact (Option.some.inj hread).symm

/-- Small letters, digits and underscores are given back by their capital forms. -/
theorem capital_of_mem_toString (h : name.IsProper) {c : Char} (hc : c ∈ name.toString.toList) :
    Text.capital c = [c.toUpper] ∧ c.toUpper.toLower = c := by
  rcases h.mem_toString hc with hsmall | rfl
  · have hlatin := toNat_lt_of_isWordChar (isWordChar_of_isSmallOrDigit hsmall)
    exact ⟨by rw [Text.capital, if_pos hlatin], toLower_toUpper_of_isSmallOrDigit hsmall⟩
  · decide

/-- A constant has the characters of its name in capitals. -/
theorem constantName_toList (h : name.IsProper) :
    name.constantName.toList = name.toString.toList.map Char.toUpper := by
  rw [constantName, Text.upper, String.toList_ofList, List.map_eq_flatMap]
  exact List.flatMap_congr fun _ hc => (h.capital_of_mem_toString hc).1

/-- The small letters of a constant are those of the name. -/
theorem toLower_constantName (h : name.IsProper) :
    name.constantName.toList.map Char.toLower = name.toString.toList := by
  rw [h.constantName_toList, List.map_map]
  exact map_eq_self fun c hc => (h.capital_of_mem_toString hc).2

theorem constantName_injective (h : name.IsProper) (hother : other.IsProper)
    (heq : name.constantName = other.constantName) : name = other := by
  have hspelled : name.toString = other.toString := by
    rw [← String.toList_inj, ← h.toLower_constantName, heq, hother.toLower_constantName]
  have hread := h.ofText?_toString
  rw [hspelled, hother.ofText?_toString] at hread
  exact (Option.some.inj hread).symm

end IsProper

/-- A name is read back from its words in snake case and from its accessor. The accessor is not
reserved, and no other name that a text spells has the same accessor or the same constant. -/
theorem readsBack_of_ofText? {text : String} {name : Name} (h : ofText? text = some name) :
    ofText? name.toString = some name ∧ ofText? name.accessorName = some name ∧
      name.accessorName ∉ reservedWords ∧
      ∀ (otherText : String) (other : Name), ofText? otherText = some other → other ≠ name →
        other.accessorName ≠ name.accessorName ∧ other.constantName ≠ name.constantName := by
  have hproper := isProper_of_ofText? h
  refine ⟨hproper.ofText?_toString, hproper.ofText?_accessorName,
    name.accessorName_notMem_reservedWords, ?_⟩
  intro otherText other hother hne
  have hotherProper := isProper_of_ofText? hother
  exact ⟨fun heq => hne (hotherProper.accessorName_injective hproper heq),
    fun heq => hne (hotherProper.constantName_injective hproper heq)⟩

/-- A reserved word keeps apart from a name that its accessor is the beginning of. -/
theorem readsBack_of_ofText?_class :
    ofText? "Class" = some ⟨["class"]⟩ ∧ (Name.mk ["class"]).accessorName = "class_" ∧
      ofText? "class_" = some ⟨["class"]⟩ ∧ "class_" ∉ reservedWords ∧
      ofText? "class-2" = some ⟨["class", "2"]⟩ ∧
      (Name.mk ["class", "2"]).accessorName ≠ "class_" ∧
      (Name.mk ["class", "2"]).constantName ≠ (Name.mk ["class"]).constantName := by
  have hclass : ofText? "Class" = some ⟨["class"]⟩ := by decide +kernel
  have haccessor : (Name.mk ["class"]).accessorName = "class_" := by decide +kernel
  have hsecond : ofText? "class-2" = some ⟨["class", "2"]⟩ := by decide +kernel
  obtain ⟨-, hread, hfree, hothers⟩ := readsBack_of_ofText? hclass
  obtain ⟨hapart, hconstant⟩ := hothers "class-2" _ hsecond (by decide)
  rw [haccessor] at hread hfree hapart
  exact ⟨hclass, haccessor, hread, hfree, hsecond, hapart, hconstant⟩

end RubyClasses.Name
