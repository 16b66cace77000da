import RubyClasses.Source.Buffer

/-! # Outlines

Generated source is an outline: lines, blocks around outlines and modules around outlines. Nothing
in an outline can fail. Emitting one into a buffer writes its lines at the level that their blocks
and modules ask for, and leaves the level and the open modules as they were.
-/

namespace RubyClasses

/-- Lines, blocks and modules in sequence. -/
inductive Outline where
  | done
  | line (text : String) (next : Outline)
  | block (header closer : String) (body next : Outline)
  | module (name : String) (body next : Outline)
  deriving DecidableEq, Repr, Inhabited

namespace Outline

/-- One outline after another. -/
def append : Outline → Outline → Outline
  | done, after => after
  | line text next, after => line text (append next after)
  | block header closer body next, after => block header closer body (append next after)
  | module name body next, after => module name body (append next after)

instance : Append Outline := ⟨append⟩

/-- Several outlines after each other. -/
def join (outlines : List Outline) : Outline := outlines.foldr append done

/-- Lines after each other. -/
def ofLines (lines : List String) : Outline := lines.foldr line done

/-- A block by itself, closed by `end`. -/
def ofBlock (header : String) (body : Outline) : Outline := block header "end" body done

/-- An empty line. -/
def blank : Outline := line "" done

theorem done_append (o : Outline) : done ++ o = o := rfl

theorem append_done (o : Outline) : o ++ done = o := by
  change append o done = o
  induction o with
  | done => rfl
  | line text next ih => simp [append, ih]
  | block header closer body next _ ih => simp [append, ih]
  | module name body next _ ih => simp [append, ih]

/-- How outlines one after another are grouped does not matter. -/
theorem append_assoc (a b c : Outline) : a ++ b ++ c = a ++ (b ++ c) := by
  change append (append a b) c = append a (append b c)
  induction a with
  | done => rfl
  | line text next ih => simp [append, ih]
  | block header closer body next _ ih => simp [append, ih]
  | module name body next _ ih => simp [append, ih]

end Outline

namespace Buffer

/-- Write an outline into a buffer. -/
def emit : Outline → Buffer → Buffer
  | .done, b => b
  | .line text next, b => emit next (b.write text)
  | .block header closer body next, b =>
      emit next ((emit body (b.openBlock header)).closeBlock closer)
  | .module name body next, b => emit next ((emit body (b.beginModule name)).endModule name).1

/-- Emitting outlines after each other is emitting the sequence. -/
theorem emit_append (first second : Outline) (b : Buffer) :
    emit (first ++ second) b = emit second (emit first b) := by
  change emit (first.append second) b = _
  induction first generalizing b with
  | done => rfl
  | line text next ih => exact ih _
  | block header closer body next _ ih => exact ih _
  | module name body next _ ih => exact ih _

end Buffer

end RubyClasses
