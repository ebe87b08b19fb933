/-!
# JSON trees

A JSON value as a tree. An object keeps its fields in the order they were written, and a key may occur
more than once. Numbers that fit are integers; all others are doubles.
-/

namespace SwaggerGen

inductive Json.Number where
  | integer (n : Int)
  | real (x : Float)
  deriving Repr, Inhabited

inductive Json where
  | null
  | boolean (b : Bool)
  | number (n : Json.Number)
  | string (s : String)
  | array (items : List Json)
  | object (fields : List (String × Json))
  deriving Repr, Inhabited

namespace Json

def field? (key : String) : Json → Option Json
  | object fields => fields.lookup key
  | _ => none

end Json

end SwaggerGen
