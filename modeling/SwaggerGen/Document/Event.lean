import SwaggerGen.Document.Build
import SwaggerGen.Text.Quoted

/-!
# The log of a conversion

What is reported while a description is turned into its document: each route in the order it is found,
the references, each definition, and at last the document.
-/

namespace SwaggerGen

/-- A report. -/
inductive Event where
  | routeRendered (path : String) (method : Method) (handler : String)
  | methodUnsupported (path method : String)
  | referencesCollected (references : List String)
  | definitionRendered (name : String) (properties : Nat)
  | documentBuilt (service : String) (paths definitions : Nat)
  deriving DecidableEq, Repr

namespace Event

def level : Event → String
  | methodUnsupported .. => "WARN"
  | referencesCollected .. => "TRACE"
  | _ => "DEBUG"

def message : Event → String
  | routeRendered .. => "rendered route"
  | methodUnsupported .. => "unsupported HTTP method, operation dropped"
  | referencesCollected .. => "definitions referenced by request bodies"
  | definitionRendered .. => "rendered definition"
  | documentBuilt .. => "built swagger document"

/-- A set of strings in braces. -/
def setText (strings : List String) : String :=
  "\x7b" ++ ", ".intercalate (strings.map Text.quoted) ++ "\x7d"

def particulars : Event → List (String × String)
  | routeRendered path method handler =>
      [("path", path), ("method", method.name), ("handler", handler)]
  | methodUnsupported path method => [("path", path), ("method", method)]
  | referencesCollected references => [("referenced", setText references)]
  | definitionRendered name properties =>
      [("definition", name), ("properties", toString properties)]
  | documentBuilt service paths definitions =>
      [("service", service), ("paths", toString paths), ("definitions", toString definitions)]

end Event

def Route.event (route : Route) : Event :=
  match Method.ofText? route.method with
  | some method => .routeRendered route.template method route.handler
  | none => .methodUnsupported route.template route.method

def StructType.event (type : StructType) : Event :=
  .definitionRendered type.name ((type.definition.properties.map List.length).getD 0)

def Api.events (api : Api) : List Event :=
  api.service.discovered.map (·.2.event) ++ [.referencesCollected api.service.referenced] ++
    api.types.map StructType.event ++
    [.documentBuilt api.service.name api.document.paths.size api.document.definitions.size]

end SwaggerGen
