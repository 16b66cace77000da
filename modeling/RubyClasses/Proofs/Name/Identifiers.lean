import RubyClasses.Proofs.Name.SnakeCase

/-! # When names are identifiers

Accessors, class names and constants are made of the letters and digits of a text, and accessors and
constants of underscores, too. All three start with the first letter or digit of the text, so they
have the form of an identifier when this is a letter. Nothing is put in front of a digit.
-/

namespace RubyClasses

/-- A text starts with a character of one kind and goes on with characters of another. -/
def Text.hasForm (first later : Char → Bool) (text : String) : Bool :=
  match text.toList with
  | [] => false
  | c :: rest => first c && rest.all later

theorem Text.hasForm_eq (first : Char → Bool) {later : Char → Bool} {text : String} {c : Char}
    (hhead : text.toList.head? = some c) (hlater : ∀ d ∈ text.toList, later d = true) :
    hasForm first later text = first c := by
  obtain ⟨rest, hchars⟩ := List.head?_eq_some_iff.mp hhead
  have hrest : rest.all later = true := by
    rw [List.all_eq_true]
    exact fun d hd => hlater d (by simp [hchars, hd])
  rw [hasForm, hchars]
  simp [hrest]

namespace Name

/-- The characters of constants: capital letters, digits and underscores. -/
def isConstantChar (c : Char) : Bool := isCapitalOrDigit c || c == '_'

/-- A name of a method: a small letter, then small letters, digits and underscores. -/
def isMethodName (text : String) : Bool := Text.hasForm Char.isLower isAccessorChar text

/-- A name of a class: a capital letter, then letters and digits. -/
def isClassName (text : String) : Bool := Text.hasForm Char.isUpper isWordChar text

/-- A name of a constant: a capital letter, then capital letters, digits and underscores. -/
def isConstantName (text : String) : Bool := Text.hasForm Char.isUpper isConstantChar text

/-- The spellings of a name start with a character, in small form or as a capital, and go on with
the characters that their kind allows. -/
structure StartsWith (name : Name) (c : Char) : Prop where
  accessor : Text.hasForm (· == c.toLower) isAccessorChar name.accessorName = true
  className : Text.hasForm (· == c.toUpper) isWordChar name.className = true
  constant : Text.hasForm (· == c.toUpper) isConstantChar name.constantName = true

/-- The first letter or digit of a text is the first one of the words. -/
theorem head?_words {text : String} {name : Name} (h : ofText? text = some name) :
    (name.words.flatMap String.toList).head? =
      (text.toList.find? isWordChar).map Char.toLower := by
  rw [words_of_ofText? h, flatMap_wordsOf, List.head?_map, List.head?_filter]

/-- A text that starts like a word starts with the words that it spells. -/
theorem head?_of_ofText? {text : String} {name : Name} (h : ofText? text = some name) {c : Char}
    {rest : List Char} (hchars : text.toList = c :: rest) (hc : isSmallOrDigit c = true) :
    text.toList.head? = (name.words.flatMap String.toList).head? := by
  rw [head?_words h, hchars, List.find?_cons_of_pos (isWordChar_of_isSmallOrDigit hc),
    Option.map_some, toLower_of_isSmallOrDigit hc, List.head?_cons]

/-- The forms of a letter are letters, and those of a digit are none. -/
theorem forms_isAlpha {c : Char} (h : isWordChar c = true) :
    c.toLower.isLower = c.isAlpha ∧ c.toUpper.isUpper = c.isAlpha ∧
      c.toLower.toUpper = c.toUpper :=
  of_isWordChar (P := fun c => c.toLower.isLower = c.isAlpha ∧ c.toUpper.isUpper = c.isAlpha ∧
    c.toLower.toUpper = c.toUpper) (by decide +kernel) h

namespace IsProper

variable {name : Name} {c : Char}

theorem head?_toString (h : name.IsProper) :
    name.toString.toList.head? = (name.words.flatMap String.toList).head? := by
  obtain ⟨c, rest, hchars, hc⟩ := h.exists_toString
  exact head?_of_ofText? h.ofText?_toString hchars hc

theorem head?_accessorName (h : name.IsProper) :
    name.accessorName.toList.head? = (name.words.flatMap String.toList).head? := by
  obtain ⟨c, rest, hchars, hc⟩ := h.exists_accessorName
  exact head?_of_ofText? h.ofText?_accessorName hchars hc

theorem head?_className (h : name.IsProper) :
    name.className.toList.head? =
      (name.words.flatMap String.toList).head?.map Char.toUpper := by
  obtain ⟨word, words, hwords⟩ := List.exists_cons_of_ne_nil h.words_ne_nil
  have hword : IsProperWord word := h.isProperWord (by simp [hwords])
  obtain ⟨c, cs, hchars, -⟩ := hword.exists_cons
  rw [className_toList, hwords, capitals_cons hword hchars, List.flatMap_cons, hchars]
  rfl

theorem head?_constantName (h : name.IsProper) :
    name.constantName.toList.head? =
      (name.words.flatMap String.toList).head?.map Char.toUpper := by
  rw [h.constantName_toList, List.head?_map, h.head?_toString]

theorem isConstantChar_of_mem (h : name.IsProper) (hc : c ∈ name.constantName.toList) :
    isConstantChar c = true := by
  rw [h.constantName_toList] at hc
  obtain ⟨d, hd, rfl⟩ := List.mem_map.mp hc
  rcases h.mem_toString hd with hsmall | rfl
  · simp [isConstantChar, isCapitalOrDigit_toUpper hsmall]
  · rfl

end IsProper

/-- The accessor of a name that a text spells is not reserved. With the class name and the constant
it starts with the first letter or digit of the text, and each of them is an identifier of its kind
exactly when this is a letter. -/
theorem identifiers_of_ofText? {text : String} {name : Name} (h : ofText? text = some name) :
    name.accessorName ∉ reservedWords ∧
      ∃ c, text.toList.find? isWordChar = some c ∧ name.StartsWith c ∧
        (isMethodName name.accessorName = true ↔ c.isAlpha = true) ∧
        (isClassName name.className = true ↔ c.isAlpha = true) ∧
        (isConstantName name.constantName = true ↔ c.isAlpha = true) := by
  have hproper := isProper_of_ofText? h
  obtain ⟨c, hc⟩ : ∃ c, text.toList.find? isWordChar = some c := by
    obtain ⟨c, hmem, hc⟩ := exists_ofText?_iff.mp ⟨name, h⟩
    exact Option.isSome_iff_exists.mp (List.find?_isSome.mpr ⟨c, hmem, hc⟩)
  have hwords := head?_words h
  rw [hc, Option.map_some] at hwords
  obtain ⟨hlower, hupper, hforms⟩ := forms_isAlpha (List.find?_some hc)
  have haccessor := hproper.head?_accessorName.trans hwords
  have hclass : name.className.toList.head? = some c.toUpper := by
    rw [hproper.head?_className, hwords, Option.map_some, hforms]
  have hconstant : name.constantName.toList.head? = some c.toUpper := by
    rw [hproper.head?_constantName, hwords, Option.map_some, hforms]
  have haccessorForm := fun first => Text.hasForm_eq first haccessor
    fun _ => hproper.isAccessorChar_of_mem
  have hclassForm := fun first => Text.hasForm_eq first hclass
    fun _ => hproper.isWordChar_className
  have hconstantForm := fun first => Text.hasForm_eq first hconstant
    fun _ => hproper.isConstantChar_of_mem
  refine ⟨name.accessorName_notMem_reservedWords, c, hc, ⟨?_, ?_, ?_⟩, ?_, ?_, ?_⟩
  · rw [haccessorForm, beq_self_eq_true]
  · rw [hclassForm, beq_self_eq_true]
  · rw [hconstantForm, beq_self_eq_true]
  · rw [isMethodName, haccessorForm, hlower]
  · rw [isClassName, hclassForm, hupper]
  · rw [isConstantName, hconstantForm, hupper]

/-- A reserved word in capitals, and a digit at the start of a word that is not the first one. -/
theorem identifiers_of_ofText?_end :
    isMethodName "end_" = true ∧ "end_" ∉ reservedWords ∧
      isClassName "HttpServer2nd" = true ∧ isConstantName "HTTP_SERVER_2ND" = true := by
  have hend : ofText? "-END" = some ⟨["end"]⟩ := by decide +kernel
  have hserver : ofText? "HTTPServer 2nd" = some ⟨["http", "server", "2nd"]⟩ := by decide +kernel
  obtain ⟨hfree, c, hc, -, hmethod, -⟩ := identifiers_of_ofText? hend
  obtain ⟨-, d, hd, -, -, hclass, hconstant⟩ := identifiers_of_ofText? hserver
  have hfirst : "-END".toList.find? isWordChar = some 'E' := by decide +kernel
  have hfirst' : "HTTPServer 2nd".toList.find? isWordChar = some 'H' := by decide +kernel
  obtain rfl : 'E' = c := Option.some.inj (hfirst.symm.trans hc)
  obtain rfl : 'H' = d := Option.some.inj (hfirst'.symm.trans hd)
  have haccessor : (Name.mk ["end"]).accessorName = "end_" := by decide +kernel
  rw [haccessor] at hfree hmethod
  exact ⟨hmethod.mpr rfl, hfree, hclass.mpr rfl, hconstant.mpr rfl⟩

/-- A text that starts with a digit spells a name without identifiers. -/
theorem not_identifiers_of_leadingDigit :
    ofText? "2x" = some ⟨["2x"]⟩ ∧ ¬ isMethodName (Name.mk ["2x"]).accessorName = true ∧
      ¬ isClassName (Name.mk ["2x"]).className = true ∧
      ¬ isConstantName (Name.mk ["2x"]).constantName = true := by
  decide +kernel

end Name

end RubyClasses
