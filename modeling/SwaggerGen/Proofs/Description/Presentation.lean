import SwaggerGen.Description.Formats
import SwaggerGen.Proofs.Format.Presentation

/-!
# Presentations of descriptions

The trees that show a description, part by part, with the names and the defaults of all fields. A tree is
taken as a description exactly when it shows that description.
-/

namespace SwaggerGen

def Member.views (m : Member) : List FieldView :=
  [.required "name" (· = .string m.name), .required "type" (· = .string m.typeName),
    .defaulted "tag" (m.tag = "") (· = .string m.tag),
    .defaulted "comment" (m.comment = "") (· = .string m.comment)]

def Member.Presents (m : Member) : Json → Prop := RecordPresents m.views

def StructType.views (type : StructType) : List FieldView :=
  [.required "name" (· = .string type.name),
    .defaulted "members" (type.members = []) (ListPresents Member.Presents type.members)]

def StructType.Presents (type : StructType) : Json → Prop := RecordPresents type.views

/-- Whether a tree shows a type reference: the fields of a struct type, or a name alone, with the kind
among them. -/
def TypeRef.Presents : TypeRef → Json → Prop
  | .struct type => VariantPresents "kind" "struct" type.views
  | .named name => VariantPresents "kind" "named" [.required "name" (· = .string name)]

def DocBlock.Presents (block : DocBlock) : Json → Prop :=
  RecordPresents
    [.defaulted "text" (block.text = "") (· = .string block.text),
      .defaulted "properties" (block.properties = .empty) (TextMapPresents block.properties)]

def Route.Presents (route : Route) : Json → Prop :=
  RecordPresents
    [.required "path" (· = .string route.path), .required "method" (· = .string route.method),
      .defaulted "handler" (route.handler = "") (· = .string route.handler),
      .defaulted "request_type" (route.request = none)
        (OptionalPresents TypeRef.Presents route.request),
      .defaulted "response_type" (route.response = none)
        (OptionalPresents TypeRef.Presents route.response),
      .defaulted "docs" (route.docs = [])
        (ListPresents (fun line json => json = .string line) route.docs),
      .defaulted "at_doc" (route.docBlock = ⟨"", .empty⟩) route.docBlock.Presents]

def ServerBlock.Presents (block : ServerBlock) : Json → Prop :=
  RecordPresents
    [.defaulted "properties" (block.properties = .empty) (TextMapPresents block.properties)]

def RouteGroup.Presents (group : RouteGroup) : Json → Prop :=
  RecordPresents
    [.defaulted "annotation" (group.server = ⟨.empty⟩) group.server.Presents,
      .defaulted "routes" (group.routes = []) (ListPresents Route.Presents group.routes)]

def Service.Presents (service : Service) : Json → Prop :=
  RecordPresents
    [.required "name" (· = .string service.name),
      .defaulted "groups" (service.groups = []) (ListPresents RouteGroup.Presents service.groups)]

def InfoBlock.Presents (info : InfoBlock) : Json → Prop :=
  RecordPresents
    [.defaulted "properties" (info.properties = .empty) (TextMapPresents info.properties)]

def Api.Presents (api : Api) : Json → Prop :=
  RecordPresents
    [.defaulted "info" (api.info = ⟨.empty⟩) api.info.Presents,
      .required "service" api.service.Presents,
      .defaulted "types" (api.types = []) (ListPresents StructType.Presents api.types)]

section Views

variable {α β σ : Type} (name : String) (value : Format α) (more : Fields β σ) (a d : α) (rest : β)

theorem views_cons_none : (Fields.cons name value none more).views (a, rest) =
    .required name (value.Presents a) :: more.views rest := by
  simp [Fields.views, FieldView.required]

theorem views_cons_some : (Fields.cons name value (some d) more).views (a, rest) =
    .defaulted name (a = d) (value.Presents a) :: more.views rest := by
  simp [Fields.views, FieldView.defaulted, eq_comm]

theorem views_nil : Fields.nil.views () = [] := rfl

end Views

theorem Format.presents_text : Format.text.Presents = fun s json => json = .string s := rfl

theorem Format.presents_textMap : Format.textMap.Presents = TextMapPresents := rfl

theorem Format.presents_list {α : Type} (item : Format α) :
    item.list.Presents = ListPresents item.Presents := rfl

theorem Format.presents_optional {α : Type} (value : Format α) :
    value.optional.Presents = OptionalPresents value.Presents := rfl

theorem Member.views_fields (m : Member) :
    Member.fields.views (m.name, m.typeName, m.tag, m.comment, ()) = m.views := by
  simp only [Member.fields, views_cons_none, views_cons_some, views_nil, Format.presents_text]
  rfl

theorem Member.presents_format : Member.format.Presents = Member.Presents :=
  funext fun m => congrArg RecordPresents m.views_fields

theorem StructType.views_fields (type : StructType) :
    StructType.fields.views (type.name, type.members, ()) = type.views := by
  simp only [StructType.fields, views_cons_none, views_cons_some, views_nil, Format.presents_text,
    Format.presents_list, Member.presents_format]
  rfl

theorem StructType.presents_format : StructType.format.Presents = StructType.Presents :=
  funext fun type => congrArg RecordPresents type.views_fields

theorem TypeRef.presents_format : TypeRef.format.Presents = TypeRef.Presents := by
  funext ref
  cases ref with
  | struct type => exact congrArg (VariantPresents "kind" "struct") type.views_fields
  | named name =>
      refine congrArg (VariantPresents "kind" "named") ?_
      exact views_cons_none ..

theorem DocBlock.presents_format : DocBlock.format.Presents = DocBlock.Presents := by
  funext block
  refine congrArg RecordPresents ?_
  simp only [views_cons_some, views_nil, Format.presents_text, Format.presents_textMap]

theorem Route.presents_format : Route.format.Presents = Route.Presents := by
  funext route
  refine congrArg RecordPresents ?_
  simp only [views_cons_none, views_cons_some, views_nil, Format.presents_text, Format.presents_list,
    Format.presents_optional, TypeRef.presents_format, DocBlock.presents_format]

theorem ServerBlock.presents_format : ServerBlock.format.Presents = ServerBlock.Presents := by
  funext block
  refine congrArg RecordPresents ?_
  simp only [views_cons_some, views_nil, Format.presents_textMap]

theorem RouteGroup.presents_format : RouteGroup.format.Presents = RouteGroup.Presents := by
  funext group
  refine congrArg RecordPresents ?_
  simp only [views_cons_some, views_nil, Format.presents_list, ServerBlock.presents_format,
    Route.presents_format]

theorem Service.presents_format : Service.format.Presents = Service.Presents := by
  funext service
  refine congrArg RecordPresents ?_
  simp only [views_cons_none, views_cons_some, views_nil, Format.presents_text, Format.presents_list,
    RouteGroup.presents_format]

theorem InfoBlock.presents_format : InfoBlock.format.Presents = InfoBlock.Presents := by
  funext info
  refine congrArg RecordPresents ?_
  simp only [views_cons_some, views_nil, Format.presents_textMap]

theorem Api.presents_format : Api.format.Presents = Api.Presents := by
  funext api
  refine congrArg RecordPresents ?_
  simp only [views_cons_none, views_cons_some, views_nil, Format.presents_list,
    InfoBlock.presents_format, Service.presents_format, StructType.presents_format]

theorem Member.lawful_format : Member.format.Lawful :=
  ⟨by decide, trivial, trivial, trivial, trivial, trivial⟩

theorem StructType.lawful_fields : StructType.fields.Lawful :=
  ⟨trivial, Member.lawful_format, trivial⟩

theorem StructType.nodup_names_fields : StructType.fields.names.Nodup := by decide

theorem TypeRef.lawful_format : TypeRef.format.Lawful :=
  ⟨by decide, by decide, StructType.nodup_names_fields, StructType.lawful_fields, by decide, by decide,
    ⟨trivial, trivial⟩, trivial⟩

theorem DocBlock.lawful_format : DocBlock.format.Lawful := ⟨by decide, trivial, trivial, trivial⟩

theorem Route.lawful_format : Route.format.Lawful :=
  ⟨by decide, trivial, trivial, trivial, ⟨TypeRef.lawful_format, nofun⟩,
    ⟨TypeRef.lawful_format, nofun⟩, trivial, DocBlock.lawful_format, trivial⟩

theorem RouteGroup.lawful_format : RouteGroup.format.Lawful :=
  ⟨by decide, ⟨by decide, trivial, trivial⟩, Route.lawful_format, trivial⟩

theorem Service.lawful_format : Service.format.Lawful :=
  ⟨by decide, trivial, RouteGroup.lawful_format, trivial⟩

theorem Api.lawful_format : Api.format.Lawful :=
  ⟨by decide, ⟨by decide, trivial, trivial⟩, Service.lawful_format,
    ⟨StructType.nodup_names_fields, StructType.lawful_fields⟩, trivial⟩

/-- A tree is taken as a description exactly when it shows that description. -/
theorem Api.ofTree_eq_ok_iff_presents (json : Json) (api : Api) :
    Api.format.ofTree json = .ok api ↔ api.Presents json := by
  rw [← Api.presents_format, ← Api.format.ofJson_eq_ok_iff .given Api.lawful_format, Format.ofTree]
  cases Api.format.ofJson .given json <;> simp

end SwaggerGen
