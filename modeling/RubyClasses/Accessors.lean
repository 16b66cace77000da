import RubyClasses.Model.Listing
import RubyClasses.Naming
import RubyClasses.Source.Outline

/-! # Accessors

Every member of a struct gets a method that returns its value and one that sets it, each with a
comment. The setter of a struct also takes a hash, and that of a list of structs an array of hashes;
both create the structs from them. A member whose type is neither a scalar, an enumeration, a
struct nor a list of these is refused before anything is written for it.
-/

namespace RubyClasses

/-- Why no accessors can be generated for a member. -/
inductive MemberFault where
  /-- The elements of a list have no class. -/
  | naming (fault : NamingFault)
  /-- The type of the member is unsupported; `listing` lists it. -/
  | unsupported (member : Name) (listing : String)
  deriving DecidableEq, Repr

/-- The description of a fault. -/
def MemberFault.message : MemberFault → String
  | naming fault => fault.message
  | unsupported member listing =>
      "Member '" ++ member.toString ++ "' has unsupported type " ++ listing

/-- How comments call a built-in type. -/
def Primitive.docName : Primitive → String
  | boolean => "boolean"
  | string => "string"
  | integer => "Integer"
  | decimal => "float"
  | date => "DateTime"

/-- How comments call an element. -/
def Naming.docName (naming : Naming) : Element → String
  | .primitive kind => kind.docName
  | element => (naming.elementName element).toString

namespace Accessors

/-- A comment of several lines. -/
def comment (lines : List String) : Outline :=
  Outline.ofLines (["##"] ++ lines.map (fun l => if l = "" then "#" else "# " ++ l) ++ ["#"])

/-- The sentence that describes the getter of a shape. -/
def getterSentence (naming : Naming) : Shape → String
  | .one element => "Returns the " ++ naming.docName element ++ " value."
  | .many element =>
      "Returns an array of objects of type " ++ (naming.elementName element).toString ++ "."

/-- The getter of a property. -/
def getterOutline (naming : Naming) (property : String) (shape : Shape) : Outline :=
  comment [getterSentence naming shape] ++
    Outline.ofBlock ("def " ++ property) (Outline.ofLines ["return @" ++ property]) ++
    Outline.blank

/-- A method that assigns its parameter to a property. -/
def plainSetter (property parameter : String) : Outline :=
  Outline.ofBlock ("def " ++ property ++ "=(" ++ parameter ++ ")")
    (Outline.ofLines ["@" ++ property ++ " = " ++ parameter])

/-- The setter of a property that holds a struct. -/
def structSetter (name : QualifiedName) (property : String) : Outline :=
  comment [
    "Sets the " ++ name.toString ++ " value.",
    "",
    "The `object` can be an instance of " ++ name.toString ++ " or a hash.",
    "If it is a hash then a new instance will be created passing the hash as the",
    "`opts` parameter to the constructor."] ++
  Outline.ofBlock ("def " ++ property ++ "=(object)")
    (Outline.ofBlock "if object.is_a?(Hash)"
      (Outline.ofLines ["object = " ++ name.className ++ ".new(object)"]) ++
    Outline.ofLines ["@" ++ property ++ " = object"])

/-- The setter of a property that holds a list of structs. -/
def structListSetter (name : QualifiedName) (property : String) : Outline :=
  comment ["Sets the values from a list or array of objects of type " ++ name.toString ++ "."] ++
  Outline.ofBlock ("def " ++ property ++ "=(list)")
    (Outline.ofBlock "if list.class == Array"
      (Outline.ofLines ["list = List.new(list)"] ++
      Outline.ofBlock "list.each_with_index do |value, index|"
        (Outline.ofBlock "if value.is_a?(Hash)"
          (Outline.ofLines ["list[index] = " ++ name.className ++ ".new(value)"]))) ++
    Outline.ofLines ["@" ++ property ++ " = list"])

/-- The setter of a property. -/
def setterOutline (naming : Naming) (property : String) (shape : Shape) : Outline :=
  let setter :=
    match shape with
    | .one (.primitive kind) =>
        comment ["Sets the " ++ kind.docName ++ " value."] ++ plainSetter property "value"
    | .one (.enumeration name) =>
        comment ["Sets the " ++ naming.docName (.enumeration name) ++ " value."] ++
          Outline.ofLines ["attr_writer :" ++ property]
    | .one (.struct name) => structSetter (naming.elementName (.struct name)) property
    | .many (.struct name) => structListSetter (naming.elementName (.struct name)) property
    | .many element =>
        comment ["Sets the " ++ naming.docName element ++ " values."] ++
          plainSetter property "list"
  setter ++ Outline.blank

variable (naming : Naming) (m : Model)

/-- A member is refused because its type is unsupported. -/
def refuse (here : Option Place) (member : Member) : MemberFault :=
  .unsupported member.name (m.listing here member.type)

/-- The getter of a member that is held at a place. -/
def getter (here : Option Place) (member : Member) : Except MemberFault Outline :=
  match m.shape? member.type, member.type with
  | some shape, _ => .ok (getterOutline naming member.name.accessorName shape)
  | none, .list element =>
      match naming.typeName m element with
      | .error fault => .error (.naming fault)
      | .ok _ => .error (refuse m here member)
  | none, _ => .error (refuse m here member)

/-- The setter of a member that is held at a place. -/
def setter (here : Option Place) (member : Member) : Except MemberFault Outline :=
  match m.shape? member.type with
  | some shape => .ok (setterOutline naming member.name.accessorName shape)
  | none => .error (refuse m here member)

/-- The getter and the setter of a member that is held at a place. -/
def both (here : Option Place) (member : Member) : Except MemberFault Outline := do
  let first ← getter naming m here member
  let second ← setter naming m here member
  return first ++ second

end Accessors

end RubyClasses
