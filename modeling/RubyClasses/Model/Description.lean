import RubyClasses.Json.Reader
import RubyClasses.Model.Reference

/-! # Model descriptions

A model is described by a document with a list of types. All types are declared before any of
their members is looked at, so references can point forward. The first fault in this order ends
the reading.
-/

namespace RubyClasses

open Json (Value)

/-- What is wrong with a description. -/
inductive DescriptionFault where
  /-- The text is no document; the fault has a line, a column and an offset. -/
  | malformed (fault : Json.SyntaxFault) (line column offset : Nat)
  /-- The document has no list of types. -/
  | noTypes
  /-- An entry of the list of types has no name. -/
  | unnamedType (entry : Value)
  /-- A name is not a text. -/
  | nameNotText (found : Value)
  /-- A name has neither letters nor digits. -/
  | emptyName (text : Text)
  /-- Two entries declare the same name. -/
  | declaredTwice (type : Text)
  /-- An entry is neither a struct nor an enumeration. -/
  | unknownKind (type : Text) (kind : Value)
  /-- A part of an entry is not a list. -/
  | notList (key : String) (type : Text) (found : Value)
  /-- The base of a struct is not a struct. -/
  | baseNotStruct (base type : Text)
  /-- A member lacks its name or its type. -/
  | incompleteMember (type : Text) (found : Value)
  /-- A type reference is not a text. -/
  | referenceNotText (type : Text) (found : Value)
  /-- A type reference denotes nothing. -/
  | undeclared (target : List Char) (type : Text)
  deriving Repr

/-- Why a text describes no model. -/
inductive ReadFault where
  | description (fault : DescriptionFault)
  /-- The text holds an integer with more digits than can be read. -/
  | longInteger (digits : Nat)
  deriving Repr

namespace DescriptionFault

/-- A text in single quotes, without escapes. -/
def cited (text : String) : String := "'" ++ text ++ "'"

/-- The description of a fault. -/
def message : DescriptionFault → String
  | malformed fault line column offset =>
      "Model description isn't valid JSON: " ++ fault.message ++
        s!": line {line} column {column} (char {offset})"
  | noTypes => "Model description must be an object with a 'types' list"
  | unnamedType entry => "Type declaration without a name: " ++ entry.literal
  | nameNotText found => "Name must be a string, got " ++ found.literal
  | emptyName text => "Can't build a name from " ++ text.quote
  | declaredTwice type => "Type " ++ cited type.toString ++ " is declared more than once"
  | unknownKind type kind =>
      "Type " ++ cited type.toString ++ " has unknown kind " ++ kind.literal
  | notList key type found =>
      cited key ++ " of type " ++ cited type.toString ++ " must be a list, got " ++ found.literal
  | baseNotStruct base type =>
      "Base " ++ cited base.toString ++ " of struct " ++ cited type.toString ++ " isn't a struct"
  | incompleteMember type found =>
      "Member of " ++ cited type.toString ++ " needs a name and a type: " ++ found.literal
  | referenceNotText type found =>
      "Type reference from " ++ cited type.toString ++ " must be a string, got " ++ found.literal
  | undeclared target type =>
      "Type " ++ cited (String.ofList target) ++ " referenced from " ++ cited type.toString ++
        " isn't declared"

end DescriptionFault

/-- The message of a reading that fails. -/
def ReadFault.message : ReadFault → String
  | description fault => fault.message
  | longInteger digits =>
      s!"Exceeds the limit ({Json.integerDigitLimit} digits) for integer string conversion: " ++
        s!"value has {digits} digits; use sys.set_int_max_str_digits() to increase the limit"

namespace Description

/-- The members of a JSON object. -/
abbrev Fields := List (Text × Value)

/-- The value of a field unless it is absent or counts as absent. -/
def present? (fields : Fields) (key : String) : Option Value :=
  match Value.field? fields key with
  | some v => if v.isEmpty then none else some v
  | none => none

/-- The name that a value spells. -/
def nameOf : Value → Except DescriptionFault Name
  | .text t =>
      match Name.ofText? t.toString with
      | some name => .ok name
      | none => .error (.emptyName t)
  | v => .error (.nameNotText v)

/-- The items of a field that has to hold a list and may be absent. -/
def itemsOf (fields : Fields) (key : String) (type : Text) : Except DescriptionFault (List Value) :=
  match Value.field? fields key with
  | none => .ok []
  | some (.array items) => .ok items
  | some v => .error (.notList key type v)

/-- What an entry declares before its references are resolved. -/
structure Heading where
  name : Name
  /-- The name as the entry spells it. -/
  spelled : Text
  /-- The values of an enumeration; a struct has none. -/
  values : Option (List Name)
  /-- All fields of the entry. -/
  fields : Fields

/-- Read the heading of an entry, given the names declared before it. -/
def headingOf (earlier : List Name) (entry : Value) : Except DescriptionFault Heading :=
  match entry with
  | .object fields =>
      match present? fields "name" with
      | none => .error (.unnamedType entry)
      | some (.text spelled) => do
          let name ← nameOf (.text spelled)
          if name ∈ earlier then throw (.declaredTwice spelled)
          let kind := (Value.field? fields "kind").getD .null
          match kind with
          | .text k =>
              if k = Text.ofString "struct" then return ⟨name, spelled, none, fields⟩
              else if k = Text.ofString "enum" then
                let values ← (← itemsOf fields "values" spelled).mapM nameOf
                return ⟨name, spelled, some values, fields⟩
              else throw (.unknownKind spelled kind)
          | _ => throw (.unknownKind spelled kind)
      | some found => .error (.nameNotText found)
  | _ => .error (.unnamedType entry)

/-- Read the headings of the entries in order, given the names declared before them. -/
def headingsOf (earlier : List Name) : List Value → Except DescriptionFault (List Heading)
  | [] => .ok []
  | entry :: rest => do
      let heading ← headingOf earlier entry
      return heading :: (← headingsOf (earlier ++ [heading.name]) rest)

/-- The type that a reference in an entry denotes. -/
def typeOf (names : List Name) (type : Text) : Value → Except DescriptionFault TypeRef
  | .text t =>
      let r := Reference.ofChars t.toChars
      match r.resolve? names with
      | some ref => .ok ref
      | none => .error (.undeclared r.target type)
  | v => .error (.referenceNotText type v)

/-- Read a member of a struct. -/
def memberOf (names : List Name) (type : Text) (entry : Value) : Except DescriptionFault Member :=
  match entry with
  | .object fields =>
      match present? fields "name", present? fields "type" with
      | some name, some ref => do
          let name ← nameOf name
          return ⟨name, ← typeOf names type ref⟩
      | _, _ => .error (.incompleteMember type entry)
  | _ => .error (.incompleteMember type entry)

/-- A type is one of the declared structs. -/
def denotesStruct (headings : List Heading) : TypeRef → Bool
  | .declared index => (headings[index]?.map fun h => h.values.isNone).getD false
  | _ => false

/-- Read the base of a struct, which has to be a struct. -/
def baseOf (headings : List Heading) (heading : Heading) :
    Except DescriptionFault (Option TypeRef) :=
  match present? heading.fields "base" with
  | none => .ok none
  | some (.text t) => do
      let ref ← typeOf (headings.map Heading.name) heading.spelled (.text t)
      if denotesStruct headings ref then return some ref
      else throw (.baseNotStruct t heading.spelled)
  | some v => .error (.referenceNotText heading.spelled v)

/-- Read the rest of an entry, all headings being known. -/
def declarationOf (headings : List Heading) (heading : Heading) :
    Except DescriptionFault Declaration :=
  match heading.values with
  | some values => .ok (.enumeration ⟨heading.name, values⟩)
  | none => do
      let names := headings.map Heading.name
      let members (key : String) : Except DescriptionFault (List Member) := do
        (← itemsOf heading.fields key heading.spelled).mapM (memberOf names heading.spelled)
      let base ← baseOf headings heading
      let attributes ← members "attributes"
      let links ← members "links"
      return .struct ⟨heading.name, base, attributes, links⟩

end Description

namespace Model

open Description

/-- The model that a document describes. -/
def ofDocument (document : Value) : Except DescriptionFault Model :=
  match document with
  | .object fields =>
      match Value.field? fields "types" with
      | some (.array entries) => do
          let headings ← headingsOf [] entries
          return ⟨← headings.mapM (declarationOf headings)⟩
      | _ => .error .noTypes
  | _ => .error .noTypes

/-- The model that a text describes. -/
def ofText (text : String) : Except ReadFault Model :=
  let cs := text.toList
  match Json.readDocument cs with
  | .error (.longInteger digits) => .error (.longInteger digits)
  | .error (.malformed fault rest) =>
      let (line, column, offset) := Json.placeOf cs rest
      .error (.description (.malformed fault line column offset))
  | .ok document => (ofDocument document).mapError .description

end Model

end RubyClasses
