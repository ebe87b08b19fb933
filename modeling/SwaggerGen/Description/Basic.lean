import SwaggerGen.Description.Member
import SwaggerGen.SortedMap
import SwaggerGen.Text.Blank

/-!
# API descriptions

What is known about an API before its document is made: an info block, one service with groups of
routes, and the declared struct types.
-/

namespace SwaggerGen

/-- The type of a request or a response: a struct with its members, or any other type by its name. -/
inductive TypeRef where
  | struct (type : StructType)
  | named (name : String)
  deriving DecidableEq, Repr, Inhabited

namespace TypeRef

def name : TypeRef → String
  | struct type => type.name
  | named name => name

def struct? : TypeRef → Option StructType
  | struct type => some type
  | named _ => none

end TypeRef

/-- The doc block of a route: a free text, or properties such as a description. -/
structure DocBlock where
  text : String
  properties : SortedMap String
  deriving DecidableEq, Repr, Inhabited

structure Route where
  path : String
  method : String
  handler : String
  request : Option TypeRef
  response : Option TypeRef
  docs : List String
  docBlock : DocBlock
  deriving DecidableEq, Repr, Inhabited

namespace Route

/-- The text of the doc block, or the doc lines with spaces between them if it has none. -/
def joinedDoc (route : Route) : String :=
  Text.trimString
    (if route.docBlock.text = "" then " ".intercalate route.docs else route.docBlock.text)

def requestStruct? (route : Route) : Option StructType := route.request.bind TypeRef.struct?

end Route

/-- The server block of a group: properties such as the name of the group. -/
structure ServerBlock where
  properties : SortedMap String
  deriving DecidableEq, Repr, Inhabited

/-- Routes that share a server block. -/
structure RouteGroup where
  server : ServerBlock
  routes : List Route
  deriving DecidableEq, Repr, Inhabited

/-- A service with its groups in declaration order. -/
structure Service where
  name : String
  groups : List RouteGroup
  deriving DecidableEq, Repr, Inhabited

namespace Service

/-- The routes of all groups in the order they are found, each with its group. -/
def discovered (service : Service) : List (RouteGroup × Route) :=
  service.groups.flatMap fun group => group.routes.map (group, ·)

end Service

/-- The info block: literals by their keys. -/
structure InfoBlock where
  properties : SortedMap String
  deriving DecidableEq, Repr, Inhabited

structure Api where
  info : InfoBlock
  service : Service
  types : List StructType
  deriving DecidableEq, Repr, Inhabited

end SwaggerGen
