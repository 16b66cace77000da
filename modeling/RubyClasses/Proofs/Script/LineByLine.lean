import RubyClasses.Proofs.Outline.Recognition
import RubyClasses.Proofs.Script.Balance
import RubyClasses.Proofs.Script.Writing

/-! # Line by line

An outline can be written in two ways: by a script that opens and closes its blocks and modules, or
by one that adds its texts line by line and leaves it to their looks how they are indented. For a
recognizable outline, the two scripts end in the same session.
-/

namespace RubyClasses.Script

/-- The script that opens and closes the blocks and modules of an outline. -/
def ofOutline : Outline → Script
  | .done => .done
  | .line text next => .act (.write text []) (ofOutline next)
  | .block header closer body next => .block header [] closer (ofOutline body) (ofOutline next)
  | .module name body next => .module name (ofOutline body) (ofOutline next)

/-- The script that adds lines one by one. -/
def lineByLine : List String → Script
  | [] => .done
  | text :: texts => .act (.addLine text []) (lineByLine texts)

/-- Opening and closing the blocks and modules of an outline writes it. -/
theorem ofOutline_writes (o : Outline) : (ofOutline o).Writes o := by
  induction o with
  | done => exact ⟨.done, rfl⟩
  | line text next ih => exact (Writes.plain text).append ih
  | block header closer body next ihBody ih =>
      refine ⟨.block ihBody.isScoped ih.isScoped, ?_⟩
      simp only [ofOutline, effect, ihBody.effect_eq, ih.effect_eq]
      rfl
  | module name body next ihBody ih =>
      refine ⟨.module ihBody.isScoped ih.isScoped, ?_⟩
      simp only [ofOutline, effect, ihBody.effect_eq, ih.effect_eq]
      rfl

/-- A script that writes an outline adds its lines and changes nothing else. -/
theorem Writes.run {script : Script} {o : Outline} (h : script.Writes o) (s : Session) :
    (script.run s).session = { s with buffer := s.buffer.grown (o.linesAt s.buffer.level) } ∧
      (script.run s).fault = none := by
  obtain ⟨hsession, hfault, -⟩ := h.isScoped.run_has s
  rw [h.effect_eq] at hsession hfault
  refine ⟨?_, hfault⟩
  rw [hsession, Effect.apply_eq_grown]
  rfl

/-- Adding lines one by one never fails. -/
theorem run_lineByLine (texts : List String) (s : Session) :
    ((lineByLine texts).run s).session =
        { s with buffer := texts.foldl Buffer.addLine s.buffer } ∧
      ((lineByLine texts).run s).fault = none := by
  induction texts generalizing s with
  | nil => exact ⟨rfl, rfl⟩
  | cons text texts ih => exact ih { s with buffer := s.buffer.addLine text }

/-- The two ways to write a recognizable outline are the same, from whatever session they start:
both add the lines of the outline at the level of the buffer and leave everything else as it is. -/
theorem run_ofOutline_eq_run_lineByLine {o : Outline} (h : o.IsRecognizable) (s : Session) :
    ((ofOutline o).run s).fault = none ∧ ((lineByLine o.texts).run s).fault = none ∧
      ((ofOutline o).run s).session = ((lineByLine o.texts).run s).session ∧
      ((ofOutline o).run s).session =
        { s with buffer := s.buffer.grown (o.linesAt s.buffer.level) } := by
  obtain ⟨hsession, hfault⟩ := (ofOutline_writes o).run s
  obtain ⟨hsession', hfault'⟩ := run_lineByLine o.texts s
  rw [Buffer.foldl_addLine_texts h] at hsession'
  exact ⟨hfault, hfault', hsession.trans hsession'.symm, hsession⟩

/-- Blocks of several kinds, around lines that only resemble the ends and the starts of blocks. -/
def mixedOutline : Outline :=
  .block "items.each do |item|" "end"
    (.line "" (.block "call(" ")"
      (.line "(item)," (.block "[" "]" (.line "100 % done" .done) .done))
      (.line "ending if done" .done)))
    (.module "Base::end" (.block "case item" "end" .done .done) (.line "  end" .done))

theorem mixedOutline_isRecognizable : mixedOutline.IsRecognizable := by
  refine .block (by decide) (by decide) (by decide) (by decide) ?_ ?_
  · refine .line (by decide) (by decide) (.block (by decide) (by decide) (by decide) (by decide)
      ?_ (.line (by decide) (by decide) .done))
    exact .line (by decide) (by decide) (.block (by decide) (by decide) (by decide) (by decide)
      (.line (by decide) (by decide) .done) .done)
  · exact .module (.block (by decide) (by decide) (by decide) (by decide) .done .done)
      (.line (by decide) (by decide) .done)

theorem run_ofOutline_eq_run_lineByLine_mixedOutline :
    mixedOutline.IsRecognizable ∧
      ((lineByLine mixedOutline.texts).run begun).fault = none ∧
      ((lineByLine mixedOutline.texts).run begun).session =
        ((ofOutline mixedOutline).run begun).session ∧
      ((lineByLine mixedOutline.texts).run begun).session.buffer.level = 1 ∧
      ((lineByLine mixedOutline.texts).run begun).session.buffer.modules = ["Team"] ∧
      ((lineByLine mixedOutline.texts).run begun).session.buffer.lines = [
        "module Team",
        "  items.each do |item|",
        "",
        "    call(",
        "      (item),",
        "      [",
        "        100 % done",
        "      ]",
        "    )",
        "    ending if done",
        "  end",
        "  module Base",
        "    module end",
        "      case item",
        "      end",
        "    end",
        "  end",
        "    end"] := by
  obtain ⟨-, hfault, hsession, hlines⟩ :=
    run_ofOutline_eq_run_lineByLine mixedOutline_isRecognizable begun
  refine ⟨mixedOutline_isRecognizable, hfault, hsession.symm, ?_, ?_, ?_⟩
  · rw [← hsession, hlines]
    rfl
  · rw [← hsession, hlines]
    rfl
  · rw [← hsession, hlines]
    decide +kernel

end RubyClasses.Script
