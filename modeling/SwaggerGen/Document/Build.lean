import SwaggerGen.Document.Basic

/-!
# The document of a description

Every description has a document: what cannot be mapped becomes a smaller part of it, and nothing fails.
-/

namespace SwaggerGen

namespace InfoBlock

def text (info : InfoBlock) (key : String) : String :=
  ((info.properties.get? key).map Literal.unquote).getD ""

def toDocumentInfo (info : InfoBlock) : DocumentInfo :=
  ⟨info.text "title", info.text "version", info.text "desc"⟩

end InfoBlock

/-- The one security scheme of every document: a token in a header. -/
def SecurityScheme.apiKey : SecurityScheme :=
  ⟨"apiKey", "Enter JWT Bearer token **_only_**", "Authorization", "header"⟩

namespace Api

def document (api : Api) : Document where
  swagger := "2.0"
  info := api.info.toDocumentInfo
  schemes := ["http", "https"]
  consumes := ["application/json"]
  produces := ["application/json"]
  paths := PathMap.empty.addService api.service
  definitions := Definitions.addAll .empty api.types
  streamDefinitions := .empty
  securityDefinitions := .single "apiKey" .apiKey

end Api

end SwaggerGen
