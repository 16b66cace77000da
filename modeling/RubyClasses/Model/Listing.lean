import RubyClasses.Model
import RubyClasses.Text.Quoted

/-! # Listings of types

A message about an unsupported type lists the type in full, with everything that its structs
contain. A struct, and a member type at its place, are not listed again inside themselves; dots
stand for them, so the listing of a cyclic model ends.
-/

namespace RubyClasses

/-- A place where a struct holds a member type. -/
structure Place where
  /-- The index of the struct. -/
  owner : Nat
  /-- The member is a link, not an attribute. -/
  isLink : Bool
  /-- The position among the attributes or links. -/
  position : Nat
  deriving DecidableEq, Repr

/-- A name as listings show it. -/
def Name.listing (name : Name) : String :=
  let words := name.words.map Text.quoteString
  let tuple :=
    match words with
    | [word] => word ++ ","
    | _ => ", ".intercalate words
  "Name(words=(" ++ tuple ++ "))"

/-- A built-in type as listings show it. -/
def Primitive.listing (kind : Primitive) : String :=
  let upper := String.ofList (kind.keyword.toList.map Char.toUpper)
  "PrimitiveType(kind=<PrimitiveKind." ++ upper ++ ": " ++ Text.quoteString kind.keyword ++ ">)"

namespace Model

/-- List a type. `shown` holds the structs that are being listed and `here` the place that the
listing started from. The first argument bounds how many structs are listed inside each other. -/
def listingWithin (m : Model) (here : Option Place) : Nat → List Nat → TypeRef → String
  | _, _, .primitive kind => kind.listing
  | _, _, .unknown text => Text.quoteString text
  | depth, shown, .list element =>
      "ListType(element_type=" ++ listingWithin m here depth shown element ++ ")"
  | 0, _, .declared _ => "..."
  | depth + 1, shown, .declared index =>
      if index ∈ shown then "..."
      else
        let shown := index :: shown
        let members (isLink : Bool) (entries : List Member) : String :=
          let texts := entries.zipIdx.map fun (member, position) =>
            let type :=
              if here = some ⟨index, isLink, position⟩ then "..."
              else listingWithin m here depth shown member.type
            "StructMember(name=" ++ member.name.listing ++ ", type=" ++ type ++ ")"
          "[" ++ ", ".intercalate texts ++ "]"
        match m.declarations[index]? with
        | some (.struct s) =>
            let base :=
              match s.base with
              | none => "None"
              | some ref => listingWithin m here depth shown ref
            "StructType(name=" ++ s.name.listing ++ ", base=" ++ base ++
              ", attributes=" ++ members false s.attributes ++
              ", links=" ++ members true s.links ++ ")"
        | some (.enumeration e) =>
            let values := e.values.map fun v => "EnumValue(name=" ++ v.listing ++ ")"
            "EnumType(name=" ++ e.name.listing ++
              ", values=[" ++ ", ".intercalate values ++ "])"
        | none => "..."

/-- List a type that is held at a place, or nowhere in the model. -/
def listing (m : Model) (here : Option Place) (ref : TypeRef) : String :=
  listingWithin m here (m.declarations.length + 1) [] ref

end Model

end RubyClasses
