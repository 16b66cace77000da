import RubyClasses.Accessors
import RubyClasses.Model.Hierarchy

/-! # Classes

The source for a model: every struct becomes a class and every enumeration a module with a
constant for each value. All classes are declared once without a body, bases first, so that their
bodies can refer to each other; then they follow in the same order with accessors and a
constructor, and the enumerations come last.
-/

namespace RubyClasses

/-- The members of a struct with their places, attributes before links and each sorted by name. -/
def Struct.membersInOrder (owner : Nat) (s : Struct) : List (Place × Member) :=
  let placed (isLink : Bool) (members : List Member) : List (Place × Member) :=
    Name.sortBy (fun entry => entry.2.name)
      (members.zipIdx.map fun (member, position) => (⟨owner, isLink, position⟩, member))
  placed false s.attributes ++ placed true s.links

/-- The accessors of a struct, in ascending order, as its constructor assigns them. -/
def Struct.properties (s : Struct) : List String :=
  ((s.attributes ++ s.links).map fun member => member.name.accessorName).mergeSort
    fun a b => decide (a ≤ b)

namespace Classes

variable (naming : Naming) (m : Model)

/-- The line that opens the class of a struct. -/
def header (s : Struct) : String :=
  let base :=
    match m.baseOf s with
    | some base => base.name.className
    | none => naming.baseClass
  "class " ++ s.name.className ++ " < " ++ base

/-- The declaration of a class without its body. -/
def forward (s : Struct) : Outline := Outline.ofBlock (header naming m s) .done ++ Outline.blank

/-- The constructor of a class, which takes a hash of the values of its properties. -/
def constructor (s : Struct) : Outline :=
  let assignments := s.properties.map fun p => "self." ++ p ++ " = opts[:" ++ p ++ "]"
  Outline.ofBlock "def initialize(opts = \x7b\x7d)"
    (Outline.ofLines ("super(opts)" :: assignments))

/-- The complete class of the struct at an index. -/
def body (index : Nat) (s : Struct) : Except MemberFault Outline := do
  let accessors ← (s.membersInOrder index).mapM fun (here, member) =>
    Accessors.both naming m (some here) member
  return Outline.ofBlock (header naming m s)
      (Outline.blank ++ Outline.join accessors ++ constructor s ++ Outline.blank) ++
    Outline.blank

/-- The constant for a value of an enumeration. -/
def constant (value : Name) : String :=
  value.constantName ++ " = '" ++ value.accessorName ++ "'"

/-- The module of an enumeration. -/
def enumeration (e : Enumeration) : Outline :=
  .module e.name.className (Outline.ofLines ((Name.sortBy id e.values).map constant))
    Outline.blank

/-- The enumerations of a model in the order of their names. -/
def enumerationsInOrder : List Enumeration :=
  Name.sortBy Enumeration.name (m.enumerations.map Prod.snd)

/-- The source for a model, its structs being given in declaration order. -/
def ofStructs (structs : List (Nat × Struct)) : Except MemberFault Outline := do
  let bodies ← structs.mapM fun (index, s) => body naming m index s
  let introduction := Outline.ofLines [
    "",
    "##",
    "# These forward declarations are required in order to avoid circular dependencies.",
    "#"]
  let content := introduction ++ Outline.join (structs.map fun (_, s) => forward naming m s) ++
    Outline.join bodies ++ Outline.join ((enumerationsInOrder m).map enumeration)
  return .module naming.moduleName content Outline.blank

/-- The source for a model. -/
def outline : Except MemberFault Outline := ofStructs naming m m.declarationOrder

end Classes

end RubyClasses
