import RubyClasses.Proofs.Outline.Scopes
import RubyClasses.Proofs.Script.Effects

/-! # Scoped scripts are balanced

However a scoped script ends, the level and the open modules are as before, every block and module
that was opened has a closer of its own at the indentation of its header, and each line is indented
by the number of scopes around it. A fault leaves the script as it arose.
-/

namespace RubyClasses.Script

/-- A run of a script closes what it opens. -/
structure IsBalanced (script : Script) (s : Session) (r : Run) : Prop where
  level_eq : r.session.buffer.level = s.buffer.level
  modules_eq : r.session.buffer.modules = s.buffer.modules
  /-- The lines that are added are the texts of the script, indented by the scopes around them. -/
  lines_eq : r.session.buffer.lines = s.buffer.lines ++
    Scope.layOut s.buffer.level script.effect.outline.texts script.effect.outline.scopes
  /-- Every scope has a header and a closer of its own, and scopes do not overlap in part. -/
  delimited : Scope.Delimited script.effect.outline.texts script.effect.outline.scopes
  /-- The run ends with the first fault of the script. -/
  fault_eq : r.fault = script.effect.fault
  /-- Behind the first fault there are closings only, which pass it on. -/
  ended : Ended r.events r.fault

/-- Every run of a scoped script is balanced, from whatever session it starts. -/
theorem run_isBalanced {script : Script} (hscoped : script.IsScoped) (s : Session) :
    script.IsBalanced s (script.run s) := by
  obtain ⟨hsession, hfault, hended⟩ := hscoped.run_has s
  have hbuffer := script.effect.apply_eq_grown s.buffer
  rw [Buffer.foldl_require] at hbuffer
  refine ⟨?_, ?_, ?_, script.effect.outline.delimited_scopes, hfault, hended⟩
  · rw [hsession, hbuffer]
    rfl
  · rw [hsession, hbuffer]
    rfl
  · rw [hsession, hbuffer, Buffer.lines_grown, Outline.linesAt_eq_layOut]
    rfl

/-- A script that fails at the header of its innermost block. -/
def troubled : Script :=
  .module "Acme::Sdk"
    (.act (.write "x = %d" [.int 1])
      (.block "def %s" [.text "f"] "end"
        (.block "list = [" [] ""
          (.act (.write "1," [])
            (.block "if %d" [.text "f"] "end" .done (.act (.write "2," []) .done)))
          (.act (.fail "boom") .done))
        .done))
    (.act .render .done)

theorem troubled_isScoped : troubled.IsScoped :=
  .module
    (.act (.write ..)
      (.block
        (.block (.act (.write ..) (.block .done (.act (.write ..) .done)))
          (.act (.fail _) .done))
        .done))
    (.act .render .done)

/-- A session in which a module is open. -/
def begun : Session where
  buffer := (Buffer.create "sdk/types").openModule "Team"
  disk := Disk.empty []
  journal := []

theorem run_isBalanced_troubled :
    troubled.IsScoped ∧ (troubled.run begun).session.buffer.lines = [
      "module Team",
      "  module Acme",
      "    module Sdk",
      "      x = 1",
      "      def f",
      "        list = [",
      "          1,",
      "",
      "      end",
      "    end",
      "  end"] ∧
    (troubled.run begun).session.buffer.level = 1 ∧
    (troubled.run begun).session.buffer.modules = ["Team"] ∧
    (troubled.run begun).fault = some (.template (.realRequired 'd' "str")) := by
  obtain ⟨hlevel, hmodules, hlines, -, hfault, -⟩ := run_isBalanced troubled_isScoped begun
  refine ⟨troubled_isScoped, ?_, hlevel, hmodules, ?_⟩
  · rw [hlines]
    decide +kernel
  · rw [hfault]
    decide +kernel

end RubyClasses.Script
