import RubyClasses.Proofs.Outline.Looks

/-! # Recognizable outlines

An outline is recognizable when its headers look like the start of a block only, its closers like
the end of one only, and its other lines like neither. Then the looks of its texts ask for the
levels that its blocks and modules have: the texts, added line by line, are the lines of the
outline, whatever has been written before and at whatever level.
-/

namespace RubyClasses

open Line

/-- The looks of the texts of an outline show the start and the end of every block. -/
inductive Outline.IsRecognizable : Outline → Prop
  | done : IsRecognizable .done
  | line {text : String} {next : Outline} : opens text = false → closes text = false →
      IsRecognizable next → IsRecognizable (.line text next)
  | block {header closer : String} {body next : Outline} :
      opens header = true → closes header = false → opens closer = false → closes closer = true →
      IsRecognizable body → IsRecognizable next → IsRecognizable (.block header closer body next)
  /-- The lines around a module look like its start and its end, whatever its name is. -/
  | module {name : String} {body next : Outline} : IsRecognizable body → IsRecognizable next →
      IsRecognizable (.module name body next)

namespace Buffer

variable {text : String}

theorem addLine_eq_write (hopens : opens text = false) (hcloses : closes text = false)
    (b : Buffer) : b.addLine text = b.write text := by
  simp [addLine, hopens, hcloses]

theorem addLine_eq_openBlock (hopens : opens text = true) (hcloses : closes text = false)
    (b : Buffer) : b.addLine text = b.openBlock text := by
  simp [addLine, openBlock, hopens, hcloses]

theorem addLine_eq_closeBlock (hopens : opens text = false) (hcloses : closes text = true)
    (b : Buffer) : b.addLine text = b.closeBlock text := by
  simp [addLine, closeBlock, hopens, hcloses]

/-- A line that comes out of a block and goes into one leads to level one at least. -/
theorem addLine_eq_of_both (hopens : opens text = true) (hcloses : closes text = true)
    (b : Buffer) :
    b.addLine text = { b.grown [indented (b.level - 1) text] with level := max 1 b.level } := by
  have hlevel : b.level - 1 + 1 = max 1 b.level := by omega
  simp [addLine, dedent, indent, write, grown, hopens, hcloses, hlevel]

/-- Headers of modules go in, one level each. -/
theorem foldl_addLine_openings (parts : List String) (b : Buffer) :
    (parts.map ("module " ++ ·)).foldl addLine b =
      { b.grown (Outline.openings b.level parts) with level := b.level + parts.length } := by
  induction parts generalizing b with
  | nil => rfl
  | cons part parts ih =>
      have hheader := isHeader_module part
      rw [List.map_cons, List.foldl_cons,
        addLine_eq_openBlock (opens_of_isHead hheader.heads) hheader.not_closes, ih]
      simp [openBlock, write, indent, grown, Outline.openings]
      omega

/-- Closers of modules come out, one level each. -/
theorem foldl_addLine_closings (count : Nat) (b : Buffer) (level : Nat) :
    (List.replicate count "end").foldl addLine { b with level := level + count } =
      { b.grown (Outline.closings level count) with level := level } := by
  induction count generalizing b with
  | zero => rfl
  | succ count ih =>
      have hopens : opens "end" = false := by decide
      have hcloses : closes "end" = true := by decide
      have hrest := ih (b.grown [indented (level + count) "end"])
      rw [List.replicate_succ, List.foldl_cons, addLine_eq_closeBlock hopens hcloses]
      simpa [closeBlock, dedent, write, grown, Outline.closings] using hrest

/-- Adding the texts of a recognizable outline line by line writes its lines. -/
theorem foldl_addLine_texts {o : Outline} (h : o.IsRecognizable) (b : Buffer) :
    o.texts.foldl addLine b = b.grown (o.linesAt b.level) := by
  -- what is written for a block or a module leaves the level as it was, so the rest can follow
  induction h generalizing b with
  | done => rfl
  | line hopens hcloses _ ih =>
      rw [Outline.texts, List.foldl_cons, addLine_eq_write hopens hcloses, ih]
      simp [write, grown, Outline.linesAt]
  | block hopens hcloses hopens' hcloses' _ _ ihBody ih =>
      rw [Outline.texts, List.foldl_cons, List.foldl_append, List.foldl_cons,
        addLine_eq_openBlock hopens hcloses, ihBody, addLine_eq_closeBlock hopens' hcloses', ih]
      simp [openBlock, closeBlock, write, indent, dedent, grown, Outline.linesAt]
  | @module name body next _ _ ihBody ih =>
      have hclosings := foldl_addLine_closings (Text.moduleParts name).length
        ((b.grown (Outline.openings b.level (Text.moduleParts name))).grown
          (body.linesAt (b.level + (Text.moduleParts name).length))) b.level
      simp only [Outline.texts, List.foldl_append]
      rw [foldl_addLine_openings, ihBody]
      simp only [grown] at hclosings ⊢
      rw [hclosings, ih]
      simp [grown, Outline.linesAt]

end Buffer

end RubyClasses
