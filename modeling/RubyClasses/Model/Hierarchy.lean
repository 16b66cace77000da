import RubyClasses.Model

/-! # Declaration order of structs

A struct is declared after the struct it extends; otherwise structs are declared by name. The
structs wait in a queue in the order of their names. The first one is placed when it extends
nothing or its base has been placed, and goes back to the end of the queue when not.
-/

namespace RubyClasses

/-- Structs on their way into declaration order, each with its index in the model. -/
structure Queue where
  /-- The structs that wait, the next one first. -/
  waiting : List (Nat × Struct)
  /-- The structs in declaration order. -/
  placed : List (Nat × Struct)
  deriving Repr

namespace Queue

/-- The structs of a model, waiting in the order of their names. -/
def ofStructs (structs : List (Nat × Struct)) : Queue :=
  ⟨Name.sortBy (fun entry => entry.2.name) structs, []⟩

/-- A struct can be placed: it extends nothing, or the struct it extends has been placed. -/
def isReady (q : Queue) (s : Struct) : Bool :=
  match s.base with
  | none => true
  | some (.declared index) => q.placed.any fun entry => entry.1 == index
  | some _ => false

/-- Take the next struct and place it or send it back. -/
def turn (q : Queue) : Queue :=
  match q.waiting with
  | [] => q
  | next :: rest =>
      if q.isReady next.2 then ⟨rest, q.placed ++ [next]⟩
      else ⟨rest ++ [next], q.placed⟩

/-- Take turns until no struct waits, but no more than `limit` ones; also the number of turns. -/
def settle : Nat → Queue → Nat × Queue
  | 0, q => (0, q)
  | limit + 1, q =>
      match q.waiting with
      | [] => (0, q)
      | _ :: _ =>
          let (turns, settled) := settle limit q.turn
          (turns + 1, settled)

/-- Turns that suffice to place `n` structs whose chains of bases end: every round of the queue
places one of them at least. -/
def enoughTurns (n : Nat) : Nat := n * (n + 1) / 2

end Queue

namespace Model

/-- The structs of a model in declaration order. Structs that extend each other in a cycle are
never placed. -/
def declarationOrder (m : Model) : List (Nat × Struct) :=
  (Queue.settle (Queue.enoughTurns m.structs.length) (Queue.ofStructs m.structs)).2.placed

end Model

end RubyClasses
