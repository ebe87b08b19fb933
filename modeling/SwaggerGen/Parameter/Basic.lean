import SwaggerGen.Schema.Basic

/-!
# Parameters

A parameter of an operation: a value in the path, in the query or in a header, or the whole body. What
is empty or absent is not written, except for `required`.
-/

namespace SwaggerGen

inductive Location where
  | path
  | query
  | header
  | body
  deriving DecidableEq, Repr, Inhabited

def Location.text : Location → String
  | path => "path"
  | query => "query"
  | header => "header"
  | body => "body"

structure Parameter where
  name : String
  description : String
  location : Location
  required : Bool
  type : String
  format : String
  default : Option String
  schema : Option Schema
  deriving Inhabited

namespace Parameter

def ofPath (name : String) : Parameter := ⟨name, "", .path, true, "string", "", none, none⟩

/-- The whole body, which follows a definition. -/
def ofBody (typeName : String) : Parameter :=
  ⟨"body", "", .body, true, "", "", none, some (Schema.reference (definitionRef typeName))⟩

def toJson (p : Parameter) : Json :=
  .object ([("name", .string p.name)] ++ Json.textField "description" p.description ++
    [("in", .string p.location.text), ("required", .boolean p.required)] ++
    Json.textField "type" p.type ++ Json.textField "format" p.format ++
    Json.optionalField "default" .string p.default ++ Json.optionalField "schema" Schema.toJson p.schema)

end Parameter

end SwaggerGen
