import SwaggerGen.Document.PathMap
import SwaggerGen.Yaml.Printer
import SwaggerGen.Schema.Definition

/-!
# Swagger documents

The whole document with its JSON tree. What is empty or absent is not written; the maps always are.
-/

namespace SwaggerGen

structure DocumentInfo where
  title : String
  version : String
  description : String
  deriving DecidableEq, Repr, Inhabited

def DocumentInfo.toJson (info : DocumentInfo) : Json :=
  .object ([("title", .string info.title), ("version", .string info.version)] ++
    Json.textField "description" info.description)

structure SecurityScheme where
  type : String
  description : String
  name : String
  location : String
  deriving DecidableEq, Repr, Inhabited

def SecurityScheme.toJson (scheme : SecurityScheme) : Json :=
  .object ([("type", .string scheme.type)] ++ Json.textField "description" scheme.description ++
    [("name", .string scheme.name), ("in", .string scheme.location)])

structure Document where
  swagger : String
  info : DocumentInfo
  schemes : List String
  consumes : List String
  produces : List String
  paths : PathMap
  definitions : Definitions
  streamDefinitions : Definitions
  securityDefinitions : SortedMap SecurityScheme
  deriving Inhabited

namespace Document

def stringArray (strings : List String) : Json := .array (strings.map .string)

def toJson (d : Document) : Json :=
  .object [("swagger", .string d.swagger), ("info", d.info.toJson),
    ("schemes", stringArray d.schemes), ("consumes", stringArray d.consumes),
    ("produces", stringArray d.produces), ("paths", d.paths.toJson),
    ("definitions", d.definitions.toJson), ("streamDefinitions", d.streamDefinitions.toJson),
    ("securityDefinitions",
      .object (d.securityDefinitions.toList.map fun entry => (entry.1, entry.2.toJson)))]

def toCompactJson (d : Document) : String := d.toJson.toCompact

def toPrettyJson (d : Document) : String := d.toJson.toPretty

def toYaml (d : Document) : String := d.toJson.toYaml

end Document

end SwaggerGen
