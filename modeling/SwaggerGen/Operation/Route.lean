import SwaggerGen.Description.Basic
import SwaggerGen.Literal
import SwaggerGen.Operation.Basic
import SwaggerGen.Parameter.Request

/-!
# The operation of a route

Every route becomes an operation with one response and one tag, whatever its method is.
-/

namespace SwaggerGen

namespace RouteGroup

/-- The tag of the operations of a group: the group's own name, or else that of the service. -/
def operationTag (group : RouteGroup) (service : Service) : String :=
  match group.server.properties.get? "group" with
  | some name => if name = "" then service.name else name
  | none => service.name

end RouteGroup

namespace Route

def template (route : Route) : String := PathTemplate.ofPath route.path

/-- The parameters of a route: those of its path, then those of its request struct. -/
def parameters (route : Route) : List Parameter :=
  PathTemplate.parameters route.path ++
    (route.requestStruct?.map StructType.requestParameters).getD []

def longDoc (route : Route) : String :=
  ((route.docBlock.properties.get? "description").map Literal.unquote).getD ""

/-- The schema of a successful response: a reference to the response type, if that has a name. -/
def responseSchema (route : Route) : Schema :=
  match route.response with
  | some type => if type.name = "" then .empty else .reference (definitionRef type.name)
  | none => .empty

def operation (route : Route) (service : Service) (group : RouteGroup) : Operation where
  summary := route.joinedDoc
  description := route.longDoc
  operationId := route.handler
  responses := .single "200" ⟨"A successful response.", route.responseSchema⟩
  parameters := route.parameters
  tags := [group.operationTag service]

end Route

end SwaggerGen
