import RubyClasses.Proofs.Script.Effects
import RubyClasses.Proofs.Script.Invariants

/-! # Levels and open modules

A script that writes lines and opens and closes modules changes the level only together with the
modules that are open. It may close what was never opened, and it may fail: nowhere on the way do
the level and the number of open modules drift apart, not even where a closing line too many has
been written before the fault was noticed.
-/

namespace RubyClasses

/-- The level is the number of open modules. -/
def Buffer.IsAligned (b : Buffer) : Prop := b.level = b.modules.length

/-- Actions that write at the current level or open and close modules. -/
inductive Action.IsModular : Action → Prop
  | ofScoped {action : Action} : action.IsScoped → IsModular action
  | beginModule (name : String) : IsModular (.beginModule name)
  | endModule (name : String) : IsModular (.endModule name)

/-- Scripts of such actions, at any depth of modules. -/
inductive Script.IsModular : Script → Prop
  | done : IsModular .done
  | act {action : Action} {next : Script} : action.IsModular → IsModular next →
      IsModular (.act action next)
  | module {name : String} {body next : Script} : IsModular body → IsModular next →
      IsModular (.module name body next)

namespace Buffer.IsAligned

variable {b : Buffer}

theorem create (fileName : String) : (Buffer.create fileName).IsAligned := rfl

/-- Opening the modules of a name takes as many levels as it opens modules. -/
theorem beginModule (h : b.IsAligned) (name : String) : (b.beginModule name).IsAligned := by
  rw [Buffer.beginModule, foldl_openModule, IsAligned, List.length_append, ← h]

/-- Each closing line takes one level and one module, and the last one too many takes neither. -/
theorem closeModules (h : b.IsAligned) (count : Nat) : (closeModules count b).1.IsAligned := by
  induction count generalizing b with
  | zero => exact h
  | succ count ih =>
      unfold IsAligned at h
      simp only [Buffer.closeModules]
      split
      next hnone =>
        have hmodules : b.modules = [] := hnone
        simp [IsAligned, closeBlock, dedent, write, hmodules, h]
      next =>
        apply ih
        simp [IsAligned, closeBlock, dedent, write, h]

end Buffer.IsAligned

/-- No modular action drives the level and the open modules apart. -/
theorem Action.IsModular.perform {action : Action} (h : action.IsModular) {s : Session}
    (hs : s.buffer.IsAligned) : (action.perform s).1.buffer.IsAligned := by
  cases h with
  | ofScoped hscoped =>
      rw [(hscoped.perform s).1, Effect.apply_eq_grown, Buffer.foldl_require]
      exact hs
  | beginModule name => exact hs.beginModule name
  | endModule name => exact hs.closeModules _

/-- Nothing on the way through a modular script drives them apart. -/
theorem Script.IsModular.preserves {script : Script} (h : script.IsModular) :
    script.Preserves Buffer.IsAligned := by
  induction h with
  | done => exact .done
  | act haction _ ih => exact .act (fun _ hs => haction.perform hs) ih
  | module _ _ ihBody ih =>
      -- the body may have closed the module already, which makes closing it fail in turn
      exact .module (fun _ hb => hb.beginModule _) (fun _ hb => hb.closeModules _) ihBody ih

namespace Script

/-- From a fresh buffer on, and from any other one that is aligned, the level is the number of open
modules after every event of a modular script, at whatever point it fails. -/
theorem run_isAligned :
    (∀ fileName, (Buffer.create fileName).IsAligned) ∧
      ∀ script : Script, script.IsModular → ∀ s : Session, s.buffer.IsAligned →
        (script.run s).Keeps Buffer.IsAligned :=
  ⟨Buffer.IsAligned.create, fun _ hmodular _ hs => hmodular.preserves.run hs⟩

/-- A script that closes one module more than there are, inside of two that are closed with it. -/
def overdrawn : Script :=
  .module "Acme" (.module "A::B"
    (.act (.write "x = %s" [.int 1]) (.act (.endModule "A::B::C::D") .done))
    (.act (.write "y" []) .done)) .done

/-- The script closes more modules than there are, which a modular script may do. -/
theorem overdrawn_isModular : overdrawn.IsModular :=
  .module (.module (.act (.ofScoped (.write ..)) (.act (.endModule _) .done))
    (.act (.ofScoped (.write ..)) .done)) .done

theorem run_isAligned_overdrawn :
    overdrawn.IsModular ∧ (Buffer.create "sdk/types").IsAligned ∧
      let r := overdrawn.run ⟨Buffer.create "sdk/types", Disk.empty [], []⟩
      (∀ e ∈ r.events, e.buffer.level = e.buffer.modules.length) ∧
        r.events.map (fun e => (e.buffer.level, e.fault)) = [
          (1, none), (3, none), (3, none), (0, some .noOpenModule), (0, some .noOpenModule),
          (0, some .noOpenModule)] ∧
        r.session.buffer.lines = [
          "module Acme",
          "  module A",
          "    module B",
          "      x = 1",
          "    end",
          "  end",
          "end",
          "end",
          "end",
          "end"] := by
  obtain ⟨hcreate, hrun⟩ := run_isAligned
  have haligned := hrun overdrawn overdrawn_isModular
    ⟨Buffer.create "sdk/types", Disk.empty [], []⟩ (hcreate "sdk/types")
  exact ⟨overdrawn_isModular, hcreate _, haligned.events, by decide +kernel, by decide +kernel⟩

end Script

end RubyClasses
