import SwaggerGen.Description.Basic
import SwaggerGen.Format.Text

/-!
# Formats of API descriptions

The fields of each part of a description, in declaration order, with their names in JSON, their defaults
and the label that messages use for the record.
-/

namespace SwaggerGen

def Member.fields :
    Fields (String × String × String × String × Unit)
      (Option String × Option String × Option String × Option String × Unit) :=
  .cons "name" .text none <| .cons "type" .text none <| .cons "tag" .text (some "") <|
    .cons "comment" .text (some "") .nil

def Member.format : Format Member :=
  .record "struct Member" Member.fields
    { pack := fun (name, typeName, tag, comment, ()) => ⟨name, typeName, tag, comment⟩
      unpack := fun m => (m.name, m.typeName, m.tag, m.comment, ()) }

def StructType.fields :
    Fields (String × List Member × Unit) (Option String × Option (List Member) × Unit) :=
  .cons "name" .text none <| .cons "members" (.list Member.format) (some []) .nil

def StructType.format : Format StructType :=
  .record "struct StructType" StructType.fields
    { pack := fun (name, members, ()) => ⟨name, members⟩
      unpack := fun s => (s.name, s.members, ()) }

/-- The two kinds of type reference. -/
def TypeRef.variants : Variants ((String × List Member × Unit) ⊕ (String × Unit) ⊕ Empty) :=
  .cons "struct" "struct StructType" StructType.fields <|
    .cons "named" "struct variant TypeRef::Named" (.cons "name" .text none .nil) .nil

def TypeRef.format : Format TypeRef :=
  .choice "internally tagged enum TypeRef" "kind" TypeRef.variants
    { pack := fun
        | .inl (name, members, ()) => .struct ⟨name, members⟩
        | .inr (.inl (name, ())) => .named name
      unpack := fun
        | .struct type => .inl (type.name, type.members, ())
        | .named name => .inr (.inl (name, ()))
      unpack_pack := fun
        | .inl _ => rfl
        | .inr (.inl _) => rfl
      pack_unpack := fun
        | .struct _ => rfl
        | .named _ => rfl }

def DocBlock.format : Format DocBlock :=
  .record "struct AtDoc"
    (.cons "text" .text (some "") <| .cons "properties" .textMap (some .empty) .nil)
    { pack := fun (text, properties, ()) => ⟨text, properties⟩
      unpack := fun block => (block.text, block.properties, ()) }

def Route.format : Format Route :=
  .record "struct Route"
    (.cons "path" .text none <| .cons "method" .text none <| .cons "handler" .text (some "") <|
      .cons "request_type" (.optional TypeRef.format) (some none) <|
      .cons "response_type" (.optional TypeRef.format) (some none) <|
      .cons "docs" (.list .text) (some []) <|
      .cons "at_doc" DocBlock.format (some ⟨"", .empty⟩) .nil)
    { pack := fun (path, method, handler, request, response, docs, docBlock, ()) =>
        ⟨path, method, handler, request, response, docs, docBlock⟩
      unpack := fun r =>
        (r.path, r.method, r.handler, r.request, r.response, r.docs, r.docBlock, ()) }

def ServerBlock.format : Format ServerBlock :=
  .record "struct Annotation" (.cons "properties" .textMap (some .empty) .nil)
    { pack := fun (properties, ()) => ⟨properties⟩
      unpack := fun block => (block.properties, ()) }

def RouteGroup.format : Format RouteGroup :=
  .record "struct RouteGroup"
    (.cons "annotation" ServerBlock.format (some ⟨.empty⟩) <|
      .cons "routes" (.list Route.format) (some []) .nil)
    { pack := fun (server, routes, ()) => ⟨server, routes⟩
      unpack := fun group => (group.server, group.routes, ()) }

def Service.format : Format Service :=
  .record "struct ServiceDescription"
    (.cons "name" .text none <| .cons "groups" (.list RouteGroup.format) (some []) .nil)
    { pack := fun (name, groups, ()) => ⟨name, groups⟩
      unpack := fun service => (service.name, service.groups, ()) }

def InfoBlock.format : Format InfoBlock :=
  .record "struct Info" (.cons "properties" .textMap (some .empty) .nil)
    { pack := fun (properties, ()) => ⟨properties⟩
      unpack := fun info => (info.properties, ()) }

def Api.format : Format Api :=
  .record "struct ApiDescription"
    (.cons "info" InfoBlock.format (some ⟨.empty⟩) <| .cons "service" Service.format none <|
      .cons "types" (.list StructType.format) (some []) .nil)
    { pack := fun (info, service, types, ()) => ⟨info, service, types⟩
      unpack := fun api => (api.info, api.service, api.types, ()) }

/-- The description that a JSON text holds. -/
def Api.parse (text : String) : Except Json.InputError Api := Api.format.parse text

def Api.toJson (api : Api) : Json := Api.format.toJson api

end SwaggerGen
