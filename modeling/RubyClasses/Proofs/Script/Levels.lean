import RubyClasses.Proofs.Script.LineByLine
import RubyClasses.Proofs.Source.Walk

/-! # Levels of lines added one by one

Lines that are added one by one take the level along: where it ends, and how each line is indented,
is told by the steps of the lines alone. A line between two parts of a block, which comes out and
goes in again, leaves the other lines as they are, unless there is no level to come out of.
-/

namespace RubyClasses

namespace Buffer

/-- How a buffer changes when texts are added to it one by one. -/
structure Follows (b : Buffer) (texts : List String) (after : Buffer) : Prop where
  level_endsAt : Walk.EndsAt b.level (texts.flatMap Line.steps) after.level
  /-- Every step counts exactly if none of them asks for a level below zero. -/
  level_eq_iff :
    (after.level : Int) = b.level + texts.countP Line.opens - texts.countP Line.closes ↔
      ∀ front, front <+: texts.flatMap Line.steps → 0 ≤ b.level + front.sum
  /-- Each text becomes a line at the level between its two steps. -/
  grown : ∃ added, added.length = texts.length ∧
    after = { b.grown added with level := after.level } ∧
    ∀ earlier text later, texts = earlier ++ text :: later → ∃ level,
      Walk.EndsAt b.level (earlier.flatMap Line.steps ++ Line.stepsBefore text) level ∧
        added[earlier.length]? = some (indented level text)

theorem foldl_addLine_follows (texts : List String) (b : Buffer) :
    b.Follows texts (texts.foldl addLine b) := by
  have hends := Walk.endsAt_follow b.level (texts.flatMap Line.steps)
  rw [foldl_addLine]
  refine ⟨hends, ?_, Walk.lines b.level texts, Walk.length_lines b.level texts, rfl, ?_⟩
  · rw [← hends.eq_iff, Line.sum_steps, Int.add_sub_assoc]
  · rintro earlier text later rfl
    exact ⟨_, Walk.endsAt_follow _ _, Walk.getElem?_lines b.level earlier later text⟩

/-- A buffer that has one more line than another one, which stands at an index. -/
structure Gains (b : Buffer) (index : Nat) (line : String) (more : Buffer) : Prop where
  level_eq : more.level = b.level
  line_eq : more.lines[index]? = some line
  others_eq : more.lines.eraseIdx index = b.lines

theorem Gains.iff {b other more : Buffer} {index : Nat} {line : String}
    (h : b.Gains index line more) :
    other.Gains index line more ↔ b.level = other.level ∧ b.lines = other.lines := by
  obtain ⟨hlevel, hline, hothers⟩ := h
  constructor
  · rintro ⟨hlevel', -, hothers'⟩
    exact ⟨hlevel.symm.trans hlevel', hothers.symm.trans hothers'⟩
  · rintro ⟨hlevel', hothers'⟩
    exact ⟨hlevel.trans hlevel', hline, hothers.trans hothers'⟩

section Between

variable {text : String} (hopens : Line.opens text = true) (hcloses : Line.closes text = true)

include hopens hcloses

/-- A line that looks both ways is added to the lines that there are from level one on at least. -/
theorem gains_foldl_addLine (texts : List String) (b : Buffer) :
    (texts.foldl addLine { b with level := max 1 b.level }).Gains b.lines.length
      (indented (b.level - 1) text) (texts.foldl addLine (b.addLine text)) := by
  rw [addLine_eq_of_both hopens hcloses, foldl_addLine, foldl_addLine]
  refine ⟨rfl, ?_, ?_⟩
  · simp [grown, lines]
  · simp [grown, lines, List.eraseIdx_append_of_length_le]

/-- Such a line changes no other one exactly if the level is positive, or if only empty lines come
between it and the end of a block. -/
theorem gains_foldl_addLine_iff (texts : List String) (b : Buffer) :
    (texts.foldl addLine b).Gains b.lines.length (indented (b.level - 1) text)
        (texts.foldl addLine (b.addLine text)) ↔
      0 < b.level ∨ (texts.find? (· != "")).any Line.closes = true := by
  rw [(gains_foldl_addLine hopens hcloses texts b).iff]
  rcases Nat.eq_zero_or_pos b.level with hzero | hpos
  · rw [← Walk.meets_iff, foldl_addLine, foldl_addLine]
    simp [grown, lines, hzero]
  · have hmax : max 1 b.level = b.level := by omega
    rw [hmax]
    exact iff_of_true ⟨rfl, rfl⟩ (.inl hpos)

end Between

end Buffer

namespace Script

/-- Adding lines one by one never fails, and the level and the indentation of every line are where
the steps of the lines lead, without going below zero. -/
theorem run_lineByLine_follows (texts : List String) (s : Session) :
    ((lineByLine texts).run s).fault = none ∧
      ((lineByLine texts).run s).session =
        { s with buffer := ((lineByLine texts).run s).session.buffer } ∧
      s.buffer.Follows texts ((lineByLine texts).run s).session.buffer := by
  obtain ⟨hsession, hfault⟩ := run_lineByLine texts s
  rw [hsession]
  exact ⟨hfault, rfl, Buffer.foldl_addLine_follows texts s.buffer⟩

/-- More ends than starts, behind an open module. -/
def surplusTexts : List String := ["end", "end", "if ready", "", "else", "stop", "end", "call("]

theorem run_lineByLine_follows_surplusTexts :
    begun.buffer.Follows surplusTexts ((lineByLine surplusTexts).run begun).session.buffer ∧
      ((lineByLine surplusTexts).run begun).session.buffer.level = 1 ∧
      ((lineByLine surplusTexts).run begun).session.buffer.lines = [
        "module Team",
        "end",
        "end",
        "if ready",
        "",
        "else",
        "  stop",
        "end",
        "call("] ∧
      ∃ front, front <+: surplusTexts.flatMap Line.steps ∧
        (begun.buffer.level : Int) + front.sum < 0 := by
  obtain ⟨-, -, hfollows⟩ := run_lineByLine_follows surplusTexts begun
  have hlevel : ((lineByLine surplusTexts).run begun).session.buffer.level = 1 := by
    decide +kernel
  refine ⟨hfollows, hlevel, by decide +kernel, ?_⟩
  have hsum := hfollows.level_eq_iff
  rw [hlevel] at hsum
  have hnot : ¬ (((1 : Nat) : Int) = begun.buffer.level + surplusTexts.countP Line.opens -
      surplusTexts.countP Line.closes) := by decide +kernel
  simpa using hsum.not.mp hnot

/-- A line that looks like the end of a block and like the start of one comes out and goes in again.
At level zero it cannot come out but goes in all the same, so the lines behind it become what they
are from level one on at least. It changes nothing else exactly if the level is positive there, or
if the first line behind it that is not empty comes out of a block. -/
theorem run_lineByLine_between :
    (∀ text, (Line.opens text = true ∧ Line.closes text = true) ↔
      text = "else" ∨ text = "ensure" ∨ Line.startsWithAny ["when "] text = true) ∧
    ∀ text, Line.opens text = true → Line.closes text = true →
      ∀ (before after : List String) (s : Session),
      let reached := ((lineByLine before).run s).session
      let raised := { reached.buffer with level := max 1 reached.buffer.level }
      let index := reached.buffer.lines.length
      let line := Buffer.indented (reached.buffer.level - 1) text
      let more := ((lineByLine (before ++ text :: after)).run s).session.buffer
      (((lineByLine (before ++ after)).run s).session.buffer.Gains index line more ↔
        0 < reached.buffer.level ∨ (after.find? (· != "")).any Line.closes = true) ∧
      ((lineByLine after).run { reached with buffer := raised }).session.buffer.Gains
        index line more := by
  refine ⟨Line.opens_and_closes_iff, ?_⟩
  intro text hopens hcloses before after s
  simp only [(run_lineByLine _ _).1, List.foldl_append, List.foldl_cons]
  exact ⟨Buffer.gains_foldl_addLine_iff hopens hcloses after _,
    Buffer.gains_foldl_addLine hopens hcloses after _⟩

/-- An `else` in a condition, and a `when` that only an empty line keeps apart from an `end`. -/
theorem run_lineByLine_between_branches :
    ((lineByLine ["end", "if ready", "go", "stop", "end"]).run begun).session.buffer.Gains 4 "else"
        ((lineByLine ["end", "if ready", "go", "else", "stop", "end"]).run begun).session.buffer ∧
      ((lineByLine ["end", "", "end", "go"]).run begun).session.buffer.Gains 2 "when 1"
        ((lineByLine ["end", "when 1", "", "end", "go"]).run begun).session.buffer := by
  obtain ⟨-, hbetween⟩ := run_lineByLine_between
  have helse := (hbetween "else" (by decide) (by decide) ["end", "if ready", "go"]
    ["stop", "end"] begun).1.mpr (.inl (by decide +kernel))
  have hwhen := (hbetween "when 1" (by decide) (by decide) ["end"] ["", "end", "go"]
    begun).1.mpr (.inr (by decide))
  exact ⟨helse, hwhen⟩

/-- Nothing is open yet. -/
def blank : Session := ⟨Buffer.create "sdk/types", Disk.empty [], []⟩

/-- At level zero, an `else` is not neutral. -/
theorem not_gains_else_outside :
    Line.opens "else" = true ∧ Line.closes "else" = true ∧
      ((lineByLine ["x"]).run blank).session.buffer.lines = ["x"] ∧
      ((lineByLine ["else", "x"]).run blank).session.buffer.lines = ["else", "  x"] ∧
      ((lineByLine ["x"]).run blank).session.buffer.level = 0 ∧
      ((lineByLine ["else", "x"]).run blank).session.buffer.level = 1 ∧
      ¬ ((lineByLine ["x"]).run blank).session.buffer.Gains 0 "else"
        ((lineByLine ["else", "x"]).run blank).session.buffer := by
  refine ⟨by decide, by decide, by decide +kernel, by decide +kernel, by decide +kernel,
    by decide +kernel, ?_⟩
  rintro ⟨hlevel, -, -⟩
  revert hlevel
  decide +kernel

end Script

end RubyClasses
