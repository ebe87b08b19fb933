import SwaggerGen.Parameter.Basic
import SwaggerGen.SortedMap

/-!
# Operations

What one method does at a path: its texts, its responses by status, its parameters and its tags.
-/

namespace SwaggerGen

/-- A response: its text and the schema of its content. -/
structure Response where
  description : String
  schema : Schema
  deriving Inhabited

def Response.toJson (response : Response) : Json :=
  .object [("description", .string response.description), ("schema", response.schema.toJson)]

structure Operation where
  summary : String
  description : String
  operationId : String
  responses : SortedMap Response
  parameters : List Parameter
  tags : List String
  deriving Inhabited

namespace Operation

def toJson (op : Operation) : Json :=
  .object (Json.textField "summary" op.summary ++ Json.textField "description" op.description ++
    Json.textField "operationId" op.operationId ++
    [("responses", .object (op.responses.toList.map fun entry => (entry.1, entry.2.toJson)))] ++
    Json.listField "parameters" Parameter.toJson op.parameters ++
    Json.listField "tags" .string op.tags)

end Operation

end SwaggerGen
