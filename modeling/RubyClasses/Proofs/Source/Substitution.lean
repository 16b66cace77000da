import RubyClasses.Source.Template

/-! # Templates filled with texts

A template whose only directives are `%s` can be filled with any texts, whatever characters these
contain, provided that there is one text for each directive.
-/

namespace RubyClasses.Template

/-- Put texts in the places of the directives `%s`. -/
def substitute : List Char → List String → Option (List Char)
  | [], [] => some []
  | [], _ :: _ => none
  | '%' :: 's' :: rest, text :: texts => (substitute rest texts).map (text.toList ++ ·)
  | c :: rest, texts => if c = '%' then none else (substitute rest texts).map (c :: ·)

/-- The directive `%s` without any flags. -/
def textDirective : Directive := ⟨⟨false, false, false, false, false⟩, .absent, .absent, some 's'⟩

/-- The directive for a text is one piece of its template. -/
theorem piecesFrom_text (total : Nat) (rest : List Char) :
    piecesFrom total ('%' :: 's' :: rest) =
      .directive textDirective (total - rest.length - 1) :: piecesFrom total rest := by
  have hread : readDirective ('s' :: rest) = (textDirective, rest) := by
    simp [readDirective, isFlag, readAmount, readPrecision, skipSize, isSizeLetter, textDirective]
  rw [piecesFrom]
  · rw [hread]
  · simp
  · simp

theorem piecesFrom_plain {c : Char} (hc : c ≠ '%') (total : Nat) (rest : List Char) :
    piecesFrom total (c :: rest) = .plain c :: piecesFrom total rest := by
  rw [piecesFrom]
  · rintro _ rfl
    exact absurd rfl hc
  · rintro _ rfl
    exact absurd rfl hc
  · rintro rfl
    exact absurd rfl hc

/-- Every text fills the directive `%s` as it is. -/
theorem fillDirective_text (index : Nat) (text : String) (args : List Argument) :
    fillDirective textDirective index (.text text :: args) = .ok (text.toList, args) := by
  have hfield : convert 's' index textDirective.flags none (.text text) =
      .ok ⟨false, false, [], text.toList⟩ := rfl
  have hpad : pad textDirective.flags 0 ⟨false, false, [], text.toList⟩ = text.toList := by
    simp [pad, textDirective]
  unfold fillDirective
  simp only [textDirective, settle, bind, Except.bind] at hfield hpad ⊢
  simp [hfield, hpad, pure, Except.pure]

/-- Filling the pieces of a template is putting texts in the places of its directives. -/
theorem fillPieces_of_substitute {template out : List Char} {texts : List String} (total : Nat)
    (h : substitute template texts = some out) :
    fillPieces (piecesFrom total template) (texts.map .text) = .ok out := by
  fun_induction substitute template texts generalizing out with
  | case1 =>
      cases h
      rw [piecesFrom]
      rfl
  | case2 => cases h
  | case3 rest text texts ih =>
      obtain ⟨filled, hrest, rfl⟩ := Option.map_eq_some_iff.mp h
      rw [piecesFrom_text, List.map_cons, fillPieces, fillDirective_text]
      simp only [bind, Except.bind, ih hrest]
      rfl
  | case4 => cases h
  | case5 c rest texts _ hc ih =>
      obtain ⟨filled, hrest, rfl⟩ := Option.map_eq_some_iff.mp h
      rw [piecesFrom_plain hc, fillPieces, ih hrest]
      rfl

/-- A line whose template has one text for each directive is never at fault. -/
theorem line_eq_of_substitute {template text : String} (texts : List String) (htexts : texts ≠ [])
    (h : substitute template.toList texts = some text.toList) :
    line template (texts.map .text) = .ok text := by
  have hargs : (texts.map Argument.text).isEmpty = false := by simpa using htexts
  rw [line, hargs, fill, pieces, fillPieces_of_substitute _ h]
  simp [Except.map]

example (p : String) : line "self.%s = opts[:%s]" [.text p, .text p] =
    .ok ("self." ++ p ++ " = opts[:" ++ p ++ "]") :=
  line_eq_of_substitute [p, p] (by simp) (by simp [substitute])

end RubyClasses.Template
