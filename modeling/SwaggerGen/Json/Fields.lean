import SwaggerGen.Json.Basic

/-!
# Fields that may be left out

A document leaves out a text that is empty, a list without items, and a value that is not there. Each
of these is a list of fields, with one field or none.
-/

namespace SwaggerGen.Json

/-- A text, left out when it is empty. -/
def textField (key s : String) : List (String × Json) :=
  if s = "" then [] else [(key, .string s)]

/-- A value, left out when it is not there. -/
def optionalField {α : Type} (key : String) (toJson : α → Json) : Option α → List (String × Json)
  | none => []
  | some a => [(key, toJson a)]

/-- A list, left out when it has no items. -/
def listField {α : Type} (key : String) (toJson : α → Json) : List α → List (String × Json)
  | [] => []
  | a :: rest => [(key, .array ((a :: rest).map toJson))]

end SwaggerGen.Json
