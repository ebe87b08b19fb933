import SwaggerGen.Json.Fields
import SwaggerGen.TypeName.Primitive

/-!
# Schemas

A schema of the document: a reference, a primitive, an array, or an object with properties. Properties
keep their order, and a name may occur more than once. What is empty or absent is not written.
-/

namespace SwaggerGen

structure Schema where
  ref : Option String
  type : String
  format : String
  title : String
  description : String
  default : Option String
  items : Option Schema
  properties : Option (List (String × Schema))
  required : List String
  deriving Inhabited

namespace Schema

def empty : Schema := ⟨none, "", "", "", "", none, none, none, []⟩

def reference (ref : String) : Schema := { empty with ref := some ref }

def ofPrimitive (primitive : Primitive) : Schema :=
  { empty with type := primitive.type, format := primitive.format }

def array (items : Schema) : Schema := { empty with type := "array", items := some items }

mutual
def toJson : Schema → Json
  | ⟨ref, type, format, title, description, default, items, properties, required⟩ =>
      .object (Json.optionalField "$ref" .string ref ++ Json.textField "type" type ++
        Json.textField "format" format ++ Json.textField "title" title ++
        Json.textField "description" description ++ Json.optionalField "default" .string default ++
        itemsField items ++ propertiesField properties ++
        Json.listField "required" .string required)

def itemsField : Option Schema → List (String × Json)
  | none => []
  | some items => [("items", items.toJson)]

def propertiesField : Option (List (String × Schema)) → List (String × Json)
  | none => []
  | some properties => [("properties", .object (propertyFields properties))]

def propertyFields : List (String × Schema) → List (String × Json)
  | [] => []
  | (name, schema) :: rest => (name, schema.toJson) :: propertyFields rest
end

end Schema

end SwaggerGen
