import RubyClasses.CommandLine.Arguments

/-! # Requests

What the arguments of the command line ask for: help, or the generation of a source file. A switch
that is given twice counts the second time, except that required files add up. A switch that is
given without a value overrides the values given before.
-/

namespace RubyClasses.CommandLine

/-- What to generate. -/
structure Invocation where
  modelFile : String
  outputDirectory : Option String
  moduleName : Option String
  /-- The directory of the module, or empty for the one that belongs to it. -/
  modulePath : String
  baseClass : String
  requires : List (Option String)
  verbose : Bool
  deriving DecidableEq, Repr

/-- What the arguments ask for. -/
inductive Request where
  | help
  | generate (invocation : Invocation)
  deriving DecidableEq, Repr

namespace Invocation

/-- The invocation for a model file without any switches. -/
def standard (modelFile : String) : Invocation :=
  ⟨modelFile, some "generated", some "Sdk", "", "Struct", [], false⟩

/-- What stands for a base class without a value. -/
def noBaseClass : String := "[]"

/-- Apply a switch. -/
def apply (i : Invocation) (g : Given) : Invocation :=
  match g.switch with
  | .help => i
  | .outputDirectory => { i with outputDirectory := g.value }
  | .module => { i with moduleName := g.value }
  | .modulePath => { i with modulePath := g.value.getD "" }
  | .baseClass => { i with baseClass := g.value.getD noBaseClass }
  | .require => { i with requires := i.requires ++ [g.value] }
  | .verbose => { i with verbose := true }

end Invocation

/-- What arguments ask for. -/
def Request.ofArguments (arguments : List String) : Except UsageFault Request := do
  let taken ← take ⟨[], none, []⟩ (← tokens arguments)
  if asksForHelp taken.given then return .help
  match taken.modelFile with
  | none => throw .missingModelFile
  | some modelFile =>
      if taken.unrecognized ≠ [] then throw (.unrecognized taken.unrecognized)
      return .generate (taken.given.foldl Invocation.apply (Invocation.standard modelFile))

end RubyClasses.CommandLine
