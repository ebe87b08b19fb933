import SwaggerGen.Description.Member
import SwaggerGen.Parameter.Basic
import SwaggerGen.PathTemplate

/-!
# The parameters of a route

Path parameters come from the path itself. The members of the request struct give the others by their
tags: a form tag a query parameter, a header tag a header parameter, and a json tag the body, once for
each such member. A member with a path tag gives none.
-/

namespace SwaggerGen

def PathTemplate.parameters (path : String) : List Parameter :=
  (parameterNames path.toList).map fun name => Parameter.ofPath (String.ofList name)

namespace Member

/-- The query or header parameter of a member with a tag for it. The type is that of one element. -/
def parameter (m : Member) (location : Location) (tag : Tag) : Parameter :=
  let kind := Kind.ofTypeName (elementName m.typeName)
  let primitive := Primitive.ofKindOrUnknown kind m.typeName kind
  ⟨tag.name, m.description, location, !tag.isOptional, primitive.type, primitive.format, tag.default?,
    none⟩

def requestParameters (requestName : String) (m : Member) : List Parameter :=
  if m.hasTag Tag.pathKey then []
  else
    ((m.tag? Tag.formKey).map (m.parameter .query)).toList ++
      ((m.tag? Tag.headerKey).map (m.parameter .header)).toList ++
      (if m.hasTag Tag.jsonKey && requestName != "" then [Parameter.ofBody requestName] else [])

end Member

def StructType.requestParameters (type : StructType) : List Parameter :=
  type.members.flatMap (Member.requestParameters type.name)

end SwaggerGen
