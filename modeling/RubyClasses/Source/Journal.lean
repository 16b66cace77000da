/-! # Journals

What a run reports besides its result: messages of three levels from the parts of the program.
-/

namespace RubyClasses

/-- The weight of a message. -/
inductive Level where
  | debug
  | info
  | error
  deriving DecidableEq, Repr

/-- The part of the program that a message comes from. -/
inductive Origin where
  | generation
  | persistence
  | commandLine
  deriving DecidableEq, Repr

/-- A message of a run. -/
structure Message where
  level : Level
  origin : Origin
  text : String
  deriving DecidableEq, Repr

/-- The messages of a run, in order. -/
abbrev Journal := List Message

end RubyClasses
