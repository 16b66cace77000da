import Mathlib.Data.List.Induction
import Mathlib.Data.List.TakeWhile
import RubyClasses.Source.Outline

/-! # The lines of an outline

An outline denotes the lines that it has at a level of indentation. Emitting it adds these lines to
a buffer and changes nothing else. Without their indentation the lines of an outline are the same
at every level.
-/

namespace RubyClasses

/-- A line without its indentation. -/
def Line.unindented (line : String) : String :=
  String.ofList (line.toList.dropWhile (· == ' '))

/-- Indenting a line once more adds nothing to it but indentation. -/
@[simp]
theorem Line.unindented_indented (level : Nat) (line : String) :
    unindented (Buffer.indented level line) = unindented line := by
  unfold Buffer.indented
  split
  · rfl
  · rw [unindented, unindented, String.toList_append, String.toList_ofList,
      List.dropWhile_append_of_pos]
    intro c hc
    simp [(List.mem_replicate.mp hc).2]

namespace Outline

/-- The lines that open modules inside each other. -/
def openings (level : Nat) : List String → List String
  | [] => []
  | part :: parts => Buffer.indented level ("module " ++ part) :: openings (level + 1) parts

/-- The lines that close as many modules, the last one at `level`. -/
def closings (level : Nat) : Nat → List String
  | 0 => []
  | count + 1 => Buffer.indented (level + count) "end" :: closings level count

/-- The lines of an outline at a level of indentation. -/
def linesAt (level : Nat) : Outline → List String
  | done => []
  | line text next => Buffer.indented level text :: linesAt level next
  | block header closer body next =>
      Buffer.indented level header ::
        (linesAt (level + 1) body ++ Buffer.indented level closer :: linesAt level next)
  | module name body next =>
      let parts := Text.moduleParts name
      openings level parts ++ linesAt (level + parts.length) body ++
        closings level parts.length ++ linesAt level next

/-- The lines of an outline before they are indented. -/
def texts : Outline → List String
  | done => []
  | line text next => text :: texts next
  | block header closer body next => header :: (texts body ++ closer :: texts next)
  | module name body next =>
      let parts := Text.moduleParts name
      parts.map ("module " ++ ·) ++ texts body ++ List.replicate parts.length "end" ++ texts next

@[simp]
theorem linesAt_append (level : Nat) (first second : Outline) :
    linesAt level (first ++ second) = linesAt level first ++ linesAt level second := by
  change linesAt level (first.append second) = _
  induction first with
  | done => rfl
  | line text next ih => simp [append, linesAt, ih]
  | block header closer body next _ ih => simp [append, linesAt, ih]
  | module name body next _ ih => simp [append, linesAt, ih]

@[simp]
theorem linesAt_join (level : Nat) (outlines : List Outline) :
    linesAt level (join outlines) = outlines.flatMap (linesAt level) := by
  induction outlines with
  | nil => rfl
  | cons first rest ih =>
      change linesAt level (first ++ join rest) = _
      rw [linesAt_append, ih, List.flatMap_cons]

theorem linesAt_ofLines (level : Nat) (lines : List String) :
    linesAt level (ofLines lines) = lines.map (Buffer.indented level) := by
  induction lines with
  | nil => rfl
  | cons text rest ih => exact congrArg (Buffer.indented level text :: ·) ih

/-- What stands in a block is indented by one level more than its delimiters. -/
@[simp]
theorem linesAt_ofBlock (level : Nat) (header : String) (body : Outline) :
    linesAt level (ofBlock header body) =
      Buffer.indented level header :: (linesAt (level + 1) body ++ [Buffer.indented level "end"]) :=
  rfl

@[simp]
theorem texts_append (first second : Outline) :
    texts (first ++ second) = texts first ++ texts second := by
  change texts (first.append second) = _
  induction first with
  | done => rfl
  | line text next ih => simp [append, texts, ih]
  | block header closer body next _ ih => simp [append, texts, ih]
  | module name body next _ ih => simp [append, texts, ih]

@[simp]
theorem texts_join (outlines : List Outline) : texts (join outlines) = outlines.flatMap texts := by
  induction outlines with
  | nil => rfl
  | cons first rest ih =>
      change texts (first ++ join rest) = _
      rw [texts_append, ih, List.flatMap_cons]

@[simp]
theorem texts_ofLines (lines : List String) : texts (ofLines lines) = lines := by
  induction lines with
  | nil => rfl
  | cons text rest ih => exact congrArg (text :: ·) ih

@[simp]
theorem texts_ofBlock (header : String) (body : Outline) :
    texts (ofBlock header body) = header :: (texts body ++ ["end"]) := rfl

theorem map_unindented_openings (level : Nat) (parts : List String) :
    (openings level parts).map Line.unindented =
      (parts.map ("module " ++ ·)).map Line.unindented := by
  induction parts generalizing level with
  | nil => rfl
  | cons part parts ih => simp [openings, ih]

theorem map_unindented_closings (level count : Nat) :
    (closings level count).map Line.unindented =
      (List.replicate count "end").map Line.unindented := by
  induction count with
  | zero => rfl
  | succ count ih => simp [closings, ih, List.replicate_succ]

/-- Indentation is all that the level changes. -/
theorem map_unindented_linesAt (level : Nat) (o : Outline) :
    (linesAt level o).map Line.unindented = (texts o).map Line.unindented := by
  induction o generalizing level with
  | done => rfl
  | line text next ih => simp [linesAt, texts, ih]
  | block header closer body next ihBody ih => simp [linesAt, texts, ihBody, ih]
  | module name body next ihBody ih =>
      simp [linesAt, texts, ihBody, ih, map_unindented_openings, map_unindented_closings]

/-- The lines of an outline are its texts up to indentation. -/
theorem exists_text {level : Nat} {o : Outline} {line : String} (h : line ∈ linesAt level o) :
    ∃ text ∈ texts o, Line.unindented line = Line.unindented text := by
  have hmem := List.mem_map_of_mem (f := Line.unindented) h
  rw [map_unindented_linesAt] at hmem
  obtain ⟨text, htext, heq⟩ := List.mem_map.mp hmem
  exact ⟨text, htext, heq.symm⟩

/-- Something holds of each text of an outline. -/
def Each (P : String → Prop) (o : Outline) : Prop := ∀ text ∈ o.texts, P text

namespace Each

variable {P : String → Prop} {first second body : Outline}

theorem append (hfirst : first.Each P) (hsecond : second.Each P) : (first ++ second).Each P := by
  intro text h
  rw [texts_append] at h
  exact (List.mem_append.mp h).elim (hfirst text) (hsecond text)

theorem join {outlines : List Outline} (h : ∀ o ∈ outlines, o.Each P) :
    (join outlines).Each P := by
  intro text htext
  rw [texts_join] at htext
  obtain ⟨o, ho, htext⟩ := List.mem_flatMap.mp htext
  exact h o ho text htext

theorem ofLines {lines : List String} (h : ∀ text ∈ lines, P text) : (ofLines lines).Each P := by
  intro text htext
  rw [texts_ofLines] at htext
  exact h text htext

theorem ofLine {text : String} (h : P text) : (Outline.ofLines [text]).Each P :=
  ofLines fun _ hmem => List.mem_singleton.mp hmem ▸ h

theorem ofBlock {header : String} (hheader : P header) (hbody : body.Each P) (hend : P "end") :
    (ofBlock header body).Each P := by
  intro text h
  rw [texts_ofBlock] at h
  rcases List.mem_cons.mp h with rfl | h
  · exact hheader
  · rcases List.mem_append.mp h with h | h
    · exact hbody text h
    · rw [List.mem_singleton.mp h]
      exact hend

end Each

end Outline

namespace Buffer

open Outline

/-- A buffer with further lines. -/
def grown (b : Buffer) (lines : List String) : Buffer :=
  { b with latestFirst := lines.reverse ++ b.latestFirst }

@[simp]
theorem lines_grown (b : Buffer) (lines : List String) :
    (b.grown lines).lines = b.lines ++ lines := by
  simp [grown, Buffer.lines]

/-- Opening modules inside each other writes one line for each and raises the level by as many. -/
theorem foldl_openModule (b : Buffer) (parts : List String) :
    parts.foldl openModule b =
      { b.grown (openings b.level parts) with
        modules := b.modules ++ parts
        level := b.level + parts.length } := by
  induction parts generalizing b with
  | nil => simp [grown, openings]
  | cons part parts ih =>
      rw [List.foldl_cons, ih]
      simp [openModule, openBlock, write, indent, grown, openings]
      omega

/-- Closing the modules that were opened last. -/
theorem closeModules_eq (b : Buffer) (outer inner : List String) (level : Nat) :
    closeModules inner.length
        { b with modules := outer ++ inner, level := level + inner.length } =
      ({ b.grown (closings level inner.length) with modules := outer, level := level }, true) := by
  induction inner using List.reverseRec generalizing b with
  | nil => simp [closeModules, grown, closings]
  | append_singleton front last ih =>
      -- the innermost module is closed first
      have hopen : outer ++ (front ++ [last]) ≠ [] := by simp
      have hdrop : (outer ++ (front ++ [last])).dropLast = outer ++ front := by
        rw [← List.append_assoc, List.dropLast_concat]
      have hrest := ih (b.grown [indented (level + front.length) "end"])
      simp only [List.length_append, List.length_singleton, closeModules, closeBlock, dedent, write,
        if_neg hopen, hdrop]
      simpa [grown, closings] using hrest

/-- Emitting an outline adds its lines and leaves everything else as it was. -/
theorem emit_eq_grown (o : Outline) (b : Buffer) : emit o b = b.grown (o.linesAt b.level) := by
  induction o generalizing b with
  | done => rfl
  | line text next ih => simp [emit, ih, write, grown, linesAt]
  | block header closer body next ihBody ih =>
      rw [emit, ih, ihBody]
      simp [openBlock, closeBlock, write, indent, dedent, grown, linesAt]
  | module name body next ihBody ih =>
      rw [emit, beginModule, foldl_openModule, ihBody, ih, endModule]
      have hclosed := closeModules_eq
        ((b.grown (openings b.level (Text.moduleParts name))).grown
          (linesAt (b.level + (Text.moduleParts name).length) body))
        b.modules (Text.moduleParts name) b.level
      simp only [grown] at hclosed ⊢
      rw [hclosed]
      simp [linesAt]

end Buffer

end RubyClasses
