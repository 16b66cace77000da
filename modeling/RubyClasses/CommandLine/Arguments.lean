import RubyClasses.CommandLine.Switch
import RubyClasses.Text.DecimalDigit
import RubyClasses.Text.Quoted

/-! # Arguments

The arguments of the command line are first told apart: switches, plain arguments, and the double
dash, behind which all arguments are plain. Then they are taken from left to right. A long switch
may be shortened as long as it stays unique, and short switches may be written together, the last
one with its value. A double dash that is attached to a switch counts as no value. The first plain
argument is the model file; further ones are not recognized.
-/

namespace RubyClasses.CommandLine

/-- Why arguments are refused. -/
inductive UsageFault where
  | ambiguous (argument : String) (spellings : List String)
  | missingValue (s : Switch)
  | unexpectedValue (s : Switch) (value : String)
  | missingModelFile
  | unrecognized (arguments : List String)
  deriving DecidableEq, Repr

/-- The description of a fault. -/
def UsageFault.message : UsageFault → String
  | ambiguous argument spellings =>
      "ambiguous option: " ++ argument ++ " could match " ++ ", ".intercalate spellings
  | missingValue s => "argument " ++ s.title ++ ": expected one argument"
  | unexpectedValue s value =>
      "argument " ++ s.title ++ ": ignored explicit argument " ++ Text.quoteString value
  | missingModelFile => "the following arguments are required: model_file"
  | unrecognized arguments => "unrecognized arguments: " ++ " ".intercalate arguments

/-- How the value of a switch is attached to it. -/
inductive Attached where
  | nothing
  /-- The value of a long switch, behind an equals sign. -/
  | equals (value : List Char)
  /-- The characters behind a short switch: a value or further switches. -/
  | joined (rest : List Char)
  deriving DecidableEq, Repr

/-- An argument that has been told apart. -/
inductive Token where
  | plain (text : String)
  /-- The double dash. -/
  | separator
  | switch (s : Switch) (attached : Attached)
  /-- An argument that looks like a switch but is none. -/
  | unknown (text : String)
  deriving DecidableEq, Repr

/-- Cut a text at its first equals sign. -/
def cutAtEquals (cs : List Char) : List Char × Option (List Char) :=
  match cs.dropWhile (· != '=') with
  | [] => (cs, none)
  | _ :: value => (cs.takeWhile (· != '='), some value)

/-- A text is a negative number, which is never a switch. -/
def isNegativeNumber (cs : List Char) : Bool :=
  match cs with
  | '-' :: rest =>
      let rest := if rest.getLast? = some '\n' then rest.dropLast else rest
      let digits := rest.takeWhile Text.isDecimalDigit
      match rest.dropWhile Text.isDecimalDigit with
      | [] => !digits.isEmpty
      | '.' :: places => !places.isEmpty && places.all Text.isDecimalDigit
      | _ => false
  | _ => false

/-- The attachment to a switch with some spelling when an equals sign and a value follow it. Behind
a short switch the sign is passed over. -/
def Attached.ofValue (spelling : List Char) : Option (List Char) → Attached
  | some value => if ['-', '-'].isPrefixOf spelling then .equals value else .joined value
  | none => .nothing

/-- The switches that an argument can mean when its spelling is not exact. A single letter joins
with what follows it; behind two dashes the start of a spelling is enough. -/
def candidates (cs : List Char) : List (String × Switch × Attached) :=
  match cs with
  | '-' :: '-' :: _ =>
      let (start, value) := cutAtEquals cs
      (Switch.completions start).map fun (spelling, s) =>
        (spelling, s, Attached.ofValue start value)
  | '-' :: letter :: rest =>
      match Switch.ofLetter? letter with
      | some s => [(String.ofList ['-', letter], s, .joined rest)]
      | none => []
  | _ => []

/-- Tell an argument apart that is not behind a double dash. -/
def classify (argument : String) : Except UsageFault Token :=
  let cs := argument.toList
  if cs.head? ≠ some '-' then .ok (.plain argument)
  else
    match Switch.ofSpelling? argument with
    | some s => .ok (.switch s .nothing)
    | none =>
        if cs.length = 1 then .ok (.plain argument)
        else
          let (start, value) := cutAtEquals cs
          match Switch.ofSpelling? (String.ofList start), value with
          | some s, some value => .ok (.switch s (Attached.ofValue start (some value)))
          | _, _ =>
              match candidates cs with
              | [(_, s, attached)] => .ok (.switch s attached)
              | [] =>
                  if isNegativeNumber cs || cs.contains ' ' then .ok (.plain argument)
                  else .ok (.unknown argument)
              | several => .error (.ambiguous argument (several.map Prod.fst))

/-- Tell all arguments apart. -/
def tokens : List String → Except UsageFault (List Token)
  | [] => .ok []
  | "--" :: rest => .ok (.separator :: rest.map .plain)
  | argument :: rest => do
      let token ← classify argument
      return token :: (← tokens rest)

/-- A switch that was given, with its value if it has one. -/
structure Given where
  switch : Switch
  value : Option String
  deriving DecidableEq, Repr

/-- What has been taken from the arguments. -/
structure Taken where
  given : List Given
  modelFile : Option String
  unrecognized : List String
  deriving DecidableEq, Repr

/-- What one argument with switches contributes: the given switches, and the arguments behind it
that remain. -/
structure Contribution where
  given : List Given
  rest : List Token
  deriving DecidableEq, Repr

/-- A switch without an attached value, which takes the next plain argument if it needs one. -/
def alone (s : Switch) (rest : List Token) : Except UsageFault Contribution :=
  if s.takesValue then
    match rest with
    | .plain value :: rest => .ok ⟨[⟨s, some value⟩], rest⟩
    | _ => .error (.missingValue s)
  else .ok ⟨[⟨s, none⟩], rest⟩

/-- A value that is attached to a switch; a double dash is none. -/
def attachedValue (value : List Char) : Option String :=
  if value = ['-', '-'] then none else some (String.ofList value)

/-- A long switch with a value behind an equals sign. -/
def withValue (s : Switch) (value : List Char) (rest : List Token) :
    Except UsageFault Contribution :=
  if s.takesValue then .ok ⟨[⟨s, attachedValue value⟩], rest⟩
  else .error (.unexpectedValue s (String.ofList value))

/-- Put a switch in front of what follows it. -/
def Contribution.cons (s : Switch) (c : Contribution) : Contribution :=
  { c with given := ⟨s, none⟩ :: c.given }

/-- A short switch with the characters behind it: its value, or further short switches. -/
def together (s : Switch) (chars : List Char) (rest : List Token) :
    Except UsageFault Contribution :=
  if s.takesValue then .ok ⟨[⟨s, attachedValue chars⟩], rest⟩
  else
    match chars with
    | [] => .error (.unexpectedValue s "")
    | letter :: more =>
        match Switch.ofLetter? letter with
        | none => .error (.unexpectedValue s (String.ofList chars))
        | some next =>
            match more with
            | [] => (alone next rest).map (.cons s)
            | more => (together next more rest).map (.cons s)

/-- What an argument with switches contributes. -/
def contribute (s : Switch) (attached : Attached) (rest : List Token) :
    Except UsageFault Contribution :=
  match attached with
  | .nothing => alone s rest
  | .equals value => withValue s value rest
  | .joined chars => together s chars rest

theorem alone_rest {s : Switch} {rest : List Token} {c : Contribution}
    (h : alone s rest = .ok c) : c.rest.length ≤ rest.length := by
  unfold alone at h
  split at h
  · split at h
    · cases h
      simp
    · cases h
  · cases h
    exact Nat.le_refl _

theorem withValue_rest {s : Switch} {value : List Char} {rest : List Token} {c : Contribution}
    (h : withValue s value rest = .ok c) : c.rest.length ≤ rest.length := by
  unfold withValue at h
  split at h
  · cases h
    exact Nat.le_refl _
  · cases h

theorem map_cons_rest {s : Switch} {r : Except UsageFault Contribution} {n : Nat}
    {c : Contribution} (hr : ∀ inner, r = .ok inner → inner.rest.length ≤ n)
    (h : r.map (.cons s) = .ok c) : c.rest.length ≤ n := by
  cases r with
  | error e => cases h
  | ok inner =>
    cases h
    exact hr inner rfl

/-- Letters written together are one argument, so the last of them takes at most the next one. -/
theorem together_rest {s : Switch} {chars : List Char} {rest : List Token} {c : Contribution}
    (h : together s chars rest = .ok c) : c.rest.length ≤ rest.length := by
  induction chars generalizing s c with
  | nil =>
    unfold together at h
    split at h
    · cases h
      exact Nat.le_refl _
    · cases h
  | cons letter more ih =>
    unfold together at h
    split at h
    · cases h
      exact Nat.le_refl _
    · dsimp only at h
      split at h
      · cases h
      · split at h
        · exact map_cons_rest (fun _ => alone_rest) h
        · exact map_cons_rest (fun _ => ih) h

/-- A switch takes arguments off those that follow it and adds none. -/
theorem contribute_rest {s : Switch} {attached : Attached} {rest : List Token} {c : Contribution}
    (h : contribute s attached rest = .ok c) : c.rest.length ≤ rest.length := by
  cases attached with
  | nothing => exact alone_rest h
  | equals value => exact withValue_rest h
  | joined chars => exact together_rest h

/-- Leave out a double dash in front. -/
def dropSeparator : List Token → List Token
  | .separator :: rest => rest
  | rest => rest

/-- Help is asked for. -/
def asksForHelp (given : List Given) : Bool := given.any fun g => g.switch == .help

/-- Take arguments from left to right, up to a switch that asks for help. A double dash beside the
model file belongs to it. -/
def take (taken : Taken) (ts : List Token) : Except UsageFault Taken :=
  match ts with
  | [] => .ok taken
  | .unknown text :: rest =>
      take { taken with unrecognized := taken.unrecognized ++ [text] } rest
  | .switch s attached :: rest =>
      match _h : contribute s attached rest with
      | .error fault => .error fault
      | .ok c =>
          let taken := { taken with given := taken.given ++ c.given }
          if asksForHelp c.given then .ok taken else take taken c.rest
  | .plain text :: rest =>
      match taken.modelFile with
      | none => take { taken with modelFile := some text } (dropSeparator rest)
      | some _ => take { taken with unrecognized := taken.unrecognized ++ [text] } rest
  | .separator :: .plain text :: rest =>
      match taken.modelFile with
      | none => take { taken with modelFile := some text } rest
      | some _ => take { taken with unrecognized := taken.unrecognized ++ ["--", text] } rest
  | .separator :: rest =>
      take { taken with unrecognized := taken.unrecognized ++ ["--"] } rest
  termination_by ts.length
  decreasing_by
    · simp
    · exact Nat.lt_succ_of_le (contribute_rest _h)
    · unfold dropSeparator
      split
      · simp only [List.length_cons]
        omega
      · simp
    · simp
    · simp only [List.length_cons]
      omega
    · simp only [List.length_cons]
      omega
    · simp

end RubyClasses.CommandLine
