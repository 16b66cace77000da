import Mathlib.Algebra.Order.Ring.Int
import Mathlib.Order.Bounds.Basic
import RubyClasses.Proofs.Outline.Lines

/-! # The walk of the level

A line that is added by its look takes at most two steps: out before it is written, if it looks like
the end of a block, and in behind it, if it looks like the start of one. The level walks along the
steps of the lines, above a floor: where a step would lead below zero, it leads to zero. Where such
a walk ends can be told without following it.
-/

namespace RubyClasses

namespace Line

/-- The step that is taken before a line is written. -/
def stepsBefore (text : String) : List Int := if closes text then [-1] else []

/-- The step that is taken behind a line. -/
def stepsBehind (text : String) : List Int := if opens text then [1] else []

/-- The steps of a line in their order. -/
def steps (text : String) : List Int := stepsBefore text ++ stepsBehind text

/-- All steps together lead in once for each line that opens and out once for each that closes. -/
theorem sum_steps (texts : List String) :
    (texts.flatMap steps).sum = texts.countP opens - texts.countP closes := by
  induction texts with
  | nil => rfl
  | cons text texts ih =>
      rw [List.flatMap_cons, List.sum_append, ih, List.countP_cons, List.countP_cons]
      cases hcloses : closes text <;> cases hopens : opens text <;>
        simp [steps, stepsBefore, stepsBehind, hcloses, hopens] <;> omega

end Line

namespace Walk

/-- The level that steps lead to. -/
def follow (level : Nat) (steps : List Int) : Nat :=
  steps.foldl (fun (level : Nat) step => (level + step : Int).toNat) level

/-- A walk ends at the highest of the start plus all steps and of the sums of its last steps. -/
def EndsAt (level : Nat) (steps : List Int) (final : Nat) : Prop :=
  IsGreatest (insert (level + steps.sum) {total | ∃ last, last <:+ steps ∧ last.sum = total})
    (final : Int)

variable {level final : Nat} {steps : List Int}

theorem follow_append (level : Nat) (first second : List Int) :
    follow level (first ++ second) = follow (follow level first) second := List.foldl_append

/-- Following steps one by one leads to where the walk ends. -/
theorem endsAt_follow (level : Nat) (steps : List Int) :
    EndsAt level steps (follow level steps) := by
  induction steps generalizing level with
  | nil =>
      refine ⟨.inl (by simp [follow]), ?_⟩
      rintro total (rfl | ⟨last, hlast, rfl⟩)
      · simp [follow]
      · simp [List.suffix_nil.mp hlast]
  | cons step steps ih =>
      -- the floor adds to the first step what the sum of the later ones alone does without
      have hnext := Int.toNat_eq_max (level + step)
      obtain ⟨hmem, hbound⟩ := ih (level + step).toNat
      have hall := hbound (Set.mem_insert _ _)
      change IsGreatest _ ((follow (level + step).toNat steps : Nat) : Int)
      refine ⟨?_, ?_⟩
      · rcases hmem with hfinal | ⟨last, hlast, hfinal⟩
        · rcases le_total 0 ((level : Int) + step) with hstep | hstep
          · exact .inl (by rw [List.sum_cons]; omega)
          · exact .inr ⟨steps, List.suffix_cons step steps, by omega⟩
        · exact .inr ⟨last, hlast.trans (List.suffix_cons step steps), hfinal⟩
      · rintro total (rfl | ⟨last, hlast, rfl⟩)
        · rw [List.sum_cons]
          omega
        · rcases List.suffix_cons_iff.mp hlast with rfl | hlast
          · rw [List.sum_cons]
            omega
          · exact hbound (.inr ⟨last, hlast, rfl⟩)

/-- The floor is without effect exactly if the steps never ask for a level below it. -/
theorem EndsAt.eq_iff (h : EndsAt level steps final) :
    (final : Int) = level + steps.sum ↔ ∀ front, front <+: steps → 0 ≤ level + front.sum := by
  obtain ⟨hmem, hbound⟩ := h
  constructor
  · rintro hfinal front ⟨last, rfl⟩
    have hlast := hbound (.inr ⟨last, List.suffix_append front last, rfl⟩)
    rw [List.sum_append] at hfinal
    omega
  · intro hfronts
    have hall := hbound (Set.mem_insert _ _)
    rcases hmem with hfinal | ⟨last, ⟨front, rfl⟩, hfinal⟩
    · exact hfinal
    · have hfront := hfronts front (List.prefix_append front last)
      rw [List.sum_append] at hall ⊢
      omega

/-- What becomes of texts that are added one by one from a level on. -/
def lines (level : Nat) : List String → List String
  | [] => []
  | text :: texts =>
      Buffer.indented (follow level (Line.stepsBefore text)) text ::
        lines (follow level (Line.steps text)) texts

theorem length_lines (level : Nat) (texts : List String) :
    (lines level texts).length = texts.length := by
  induction texts generalizing level with
  | nil => rfl
  | cons text texts ih => simp [lines, ih]

/-- Texts behind others start at the level that these lead to. -/
theorem lines_append (level : Nat) (first second : List String) :
    lines level (first ++ second) =
      lines level first ++ lines (follow level (first.flatMap Line.steps)) second := by
  induction first generalizing level with
  | nil => rfl
  | cons text first ih =>
      rw [List.cons_append, lines, lines, ih, List.flatMap_cons, follow_append, List.cons_append]

/-- A text stands at the level to which the steps before it lead. -/
theorem getElem?_lines (level : Nat) (earlier later : List String) (text : String) :
    (lines level (earlier ++ text :: later))[earlier.length]? =
      some (Buffer.indented
        (follow level (earlier.flatMap Line.steps ++ Line.stepsBefore text)) text) := by
  rw [lines_append, List.getElem?_append_right (length_lines level earlier).le, length_lines,
    Nat.sub_self, follow_append]
  rfl

/-- From level zero and from level one, texts become the same lines exactly if the first text that
is not empty comes out of a block. -/
theorem meets_iff (texts : List String) :
    (follow 1 (texts.flatMap Line.steps) = follow 0 (texts.flatMap Line.steps) ∧
      lines 1 texts = lines 0 texts) ↔
      (texts.find? (· != "")).any Line.closes = true := by
  induction texts with
  | nil => simp [follow]
  | cons text texts ih =>
      by_cases hempty : text = ""
      · subst hempty
        have hopens : Line.opens "" = false := by decide
        have hcloses : Line.closes "" = false := by decide
        simpa [Line.steps, Line.stepsBefore, Line.stepsBehind, hopens, hcloses, lines, follow,
          Buffer.indented] using ih
      have hfind : (text :: texts).find? (· != "") = some text := by simp [hempty]
      rw [hfind, Option.any_some]
      cases hcloses : Line.closes text with
      | true =>
          have hone : follow 1 (Line.steps text) = follow 0 (Line.steps text) := by
            simp [Line.steps, Line.stepsBefore, hcloses, follow]
          have hbefore : follow 1 (Line.stepsBefore text) = follow 0 (Line.stepsBefore text) := by
            simp [Line.stepsBefore, hcloses, follow]
          simp [lines, follow_append, hone, hbefore]
      | false =>
          -- the texts differ in the indentation of this line already
          have hhead : Buffer.indented 1 text ≠ Buffer.indented 0 text := by
            intro heq
            have hlength := congrArg String.length heq
            simp [Buffer.indented, hempty] at hlength
          simp [lines, Line.stepsBefore, hcloses, follow, hhead]

end Walk

namespace Buffer

open Line Walk

/-- Adding a line takes the steps of its look, and writes it between them. -/
theorem addLine_eq (b : Buffer) (text : String) :
    b.addLine text =
      { b.grown [indented (follow b.level (stepsBefore text)) text] with
        level := follow b.level (steps text) } := by
  have hout : ((b.level : Int) + -1).toNat = b.level - 1 := by omega
  cases hcloses : closes text <;> cases hopens : opens text <;>
    simp [addLine, dedent, indent, write, grown, steps, stepsBefore, stepsBehind, follow, hout,
      hcloses, hopens]

/-- Adding texts one by one adds a line for each and moves the level along their steps. -/
theorem foldl_addLine (texts : List String) (b : Buffer) :
    texts.foldl addLine b =
      { b.grown (Walk.lines b.level texts) with
        level := follow b.level (texts.flatMap steps) } := by
  induction texts generalizing b with
  | nil => rfl
  | cons text texts ih =>
      rw [List.foldl_cons, ih, addLine_eq, List.flatMap_cons, follow_append]
      simp [grown, Walk.lines]

end Buffer

end RubyClasses
