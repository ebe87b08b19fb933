import SwaggerGen.Schema.Member
import SwaggerGen.SortedMap

/-!
# Definitions

The definition of a struct type is an object schema with one property for each member that has a json
tag. A tag without options makes its name required each time; a tag with options that is not optional
makes it required once.
-/

namespace SwaggerGen

/-- The json tags of the members that have one, each with its member, in member order. -/
def StructType.jsonMembers (type : StructType) : List (Member × Tag) :=
  type.members.filterMap fun m => (m.tag? Tag.jsonKey).map (m, ·)

def addRequired (required : List String) (tag : Tag) : List String :=
  if !tag.hasOptions then required ++ [tag.name]
  else if !tag.isOptional && !required.contains tag.name then required ++ [tag.name]
  else required

def StructType.required (type : StructType) : List String :=
  (type.jsonMembers.map Prod.snd).foldl addRequired []

def StructType.properties (type : StructType) : List (String × Schema) :=
  type.jsonMembers.map fun (m, _) => (m.propertyName, m.schema)

def StructType.definition (type : StructType) : Schema :=
  { Schema.empty with
    type := "object"
    title := type.name
    properties := if type.properties = [] then none else some type.properties
    required := type.required }

/-- Definitions by the names of their types. -/
abbrev Definitions := SortedMap Schema

namespace Definitions

/-- Adds the definition of a struct type; a later one of the same name takes its place. -/
def add (definitions : Definitions) (type : StructType) : Definitions :=
  definitions.insert type.name type.definition

def addAll (definitions : Definitions) (types : List StructType) : Definitions :=
  types.foldl add definitions

def toJson (definitions : Definitions) : Json :=
  .object (definitions.toList.map fun entry => (entry.1, entry.2.toJson))

end Definitions

end SwaggerGen
