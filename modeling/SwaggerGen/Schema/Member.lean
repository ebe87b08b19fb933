import SwaggerGen.Description.Member
import SwaggerGen.Schema.Basic

/-!
# The schema of a member

A member of a scalar type has a primitive schema, a slice of a scalar is an array of it, and every other
type is referred to by its undecorated name, through an array when it is a slice.
-/

namespace SwaggerGen

def Schema.ofTypeName (typeName : String) : Schema :=
  match Kind.ofTypeName typeName with
  | .unresolved =>
      let reference := Schema.reference (definitionRef (undecoratedName typeName))
      if ['[', ']'].isPrefixOf typeName.toList then .array reference else reference
  | .sequence =>
      let element := Kind.ofTypeName (elementName typeName)
      .array (.ofPrimitive (Primitive.ofKindOrUnknown element typeName .sequence))
  | kind => .ofPrimitive (Primitive.ofKindOrUnknown kind typeName kind)

/-- The schema of a member: that of its type name, with the member's comment and with the default of its
json tag. -/
def Member.schema (m : Member) : Schema :=
  { Schema.ofTypeName m.typeName with
    description := m.description
    default := (m.tag? Tag.jsonKey).bind Tag.default? }

end SwaggerGen
