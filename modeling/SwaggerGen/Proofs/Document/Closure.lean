import SwaggerGen.Document.Build
import SwaggerGen.Proofs.Document.References
import SwaggerGen.Proofs.Parameter.Origin
import SwaggerGen.Proofs.PathMap.Filing
import SwaggerGen.Proofs.Schema.Definitions

/-!
# Closed documents

References come from the response types of routes, from request structs with a body and from the
members of declared types. If all of these are declared, then every reference in a document is one to a
definition in it.
-/

namespace SwaggerGen

/-- The spellings of a declared type name that a member may use: the bare name, a pointer to the type,
a slice of it and a slice of pointers. -/
def decorations (name : String) : List String := [name, "*" ++ name, "[]" ++ name, "[]*" ++ name]

/-- Whether a name has neither bracket nor star. -/
def Undecorated (name : String) : Prop :=
  '[' ∉ name.toList ∧ ']' ∉ name.toList ∧ '*' ∉ name.toList

instance (name : String) : Decidable (Undecorated name) :=
  inferInstanceAs (Decidable (_ ∧ _ ∧ _))

theorem undecoratedName_of_mem_decorations {name typeName : String} (h : Undecorated name)
    (hmem : typeName ∈ decorations name) : undecoratedName typeName = name := by
  have hopen : name.toList.erase '[' = name.toList := List.erase_of_not_mem h.1
  have hclose : name.toList.erase ']' = name.toList := List.erase_of_not_mem h.2.1
  have hstar : name.toList.erase '*' = name.toList := List.erase_of_not_mem h.2.2
  simp only [decorations, List.mem_cons, List.not_mem_nil, or_false] at hmem
  rcases hmem with rfl | rfl | rfl | rfl
  · exact undecoratedName_eq_self typeName h.1 h.2.1 h.2.2
  · simp [undecoratedName, hopen, hclose]
  · simp [undecoratedName, hstar]
  · simp [undecoratedName]

namespace Schema

theorem refs_ofTypeName (typeName : String) :
    (ofTypeName typeName).refs =
      if Kind.ofTypeName typeName = .unresolved then [definitionRef (undecoratedName typeName)]
      else [] := by
  rw [ofTypeName]
  split
  · next hkind =>
      rw [if_pos hkind]
      split <;> simp
  · next hkind =>
      rw [if_neg (by simp [hkind])]
      simp
  · next hkind _ =>
      rw [if_neg hkind]
      simp

end Schema

theorem Member.refs_schema (m : Member) : m.schema.refs = (Schema.ofTypeName m.typeName).refs := by
  rw [Schema.refs_eq, Schema.refs_eq]
  rfl

theorem StructType.refs_definition (type : StructType) :
    type.definition.refs = type.properties.flatMap (·.2.refs) := by
  rw [Schema.refs_eq, definition]
  by_cases h : type.properties = []
  · rw [h]
    rfl
  · rw [if_neg h, Schema.propertyRefs, Schema.namedRefs_eq_flatMap]
    rfl

theorem StructType.mem_refs_definition {type : StructType} {ref : String}
    (h : ref ∈ type.definition.refs) :
    ∃ m ∈ type.members, m.hasTag Tag.jsonKey ∧ Kind.ofTypeName m.typeName = .unresolved ∧
      ref = definitionRef (undecoratedName m.typeName) := by
  rw [refs_definition, properties, List.flatMap_map, List.mem_flatMap] at h
  obtain ⟨⟨m, tag⟩, hm, href⟩ := h
  obtain ⟨m', hmem, htag⟩ := List.mem_filterMap.mp hm
  obtain ⟨tag', htag', heq⟩ := Option.map_eq_some_iff.mp htag
  obtain ⟨rfl, rfl⟩ := Prod.mk.injEq .. ▸ heq
  rw [Member.refs_schema, Schema.refs_ofTypeName] at href
  split at href
  · next hkind =>
      refine ⟨m', hmem, ?_, hkind, List.mem_singleton.mp href⟩
      rw [← Member.isSome_tag?, htag', Option.isSome_some]
  · exact absurd href List.not_mem_nil

theorem Definitions.mem_refs_addAll {types : List StructType} {ref : String}
    (h : ref ∈ (Definitions.addAll .empty types).refs) :
    ∃ type ∈ types, ref ∈ type.definition.refs := by
  obtain ⟨entry, hentry, href⟩ := List.mem_flatMap.mp h
  obtain ⟨type, htype, rfl⟩ := exists_type_of_mem_addAll hentry
  exact ⟨type, htype, href⟩

theorem Route.mem_refs_responseSchema {route : Route} {ref : String}
    (h : ref ∈ route.responseSchema.refs) :
    ∃ type, route.response = some type ∧ type.name ≠ "" ∧ ref = definitionRef type.name := by
  rw [responseSchema] at h
  split at h
  · next type hresponse =>
      split at h
      · simp at h
      · next hname => exact ⟨type, hresponse, hname, by simpa using h⟩
  · simp at h

theorem Member.mem_refs_requestParameters {m : Member} {requestName : String} {p : Parameter}
    (hp : p ∈ m.requestParameters requestName) {ref : String} (h : ref ∈ p.refs) :
    m.hasTag Tag.jsonKey ∧ ¬ m.hasTag Tag.pathKey ∧ requestName ≠ "" ∧
      ref = definitionRef requestName := by
  have hplain (location : Location) (tag : Tag) : ref ∉ (m.parameter location tag).refs :=
    List.not_mem_nil
  rcases mem_requestParameters hp with ⟨tag, rfl⟩ | ⟨tag, rfl⟩ | ⟨hjson, hpath, hname, rfl⟩
  · exact absurd h (hplain .query tag)
  · exact absurd h (hplain .header tag)
  · exact ⟨hjson, hpath, hname, by simpa [Parameter.refs, Parameter.ofBody] using h⟩

theorem Route.mem_refs_parameters {route : Route} {p : Parameter} (hp : p ∈ route.parameters)
    {ref : String} (h : ref ∈ p.refs) :
    ∃ type, route.requestStruct? = some type ∧ type.name ≠ "" ∧
      (∃ m ∈ type.members, m.hasTag Tag.jsonKey ∧ ¬ m.hasTag Tag.pathKey) ∧
      ref = definitionRef type.name := by
  rw [parameters_eq_append] at hp
  rcases List.mem_append.mp hp with hp | hp
  · obtain ⟨name, -, rfl⟩ := List.mem_map.mp hp
    exact absurd h List.not_mem_nil
  · obtain ⟨type, htype, m, hm, hp⟩ := mem_bodyParameters hp
    obtain ⟨hjson, hpath, hname, href⟩ := Member.mem_refs_requestParameters hp h
    exact ⟨type, htype, hname, ⟨m, hm, hjson, hpath⟩, href⟩

/-- The references in an item are those of its operations. -/
theorem PathItem.mem_refs {item : PathItem} {ref : String} (h : ref ∈ item.refs) :
    ∃ method op, item.operation? method = some op ∧ ref ∈ op.refs := by
  simp only [refs, List.mem_append, List.mem_flatMap, Option.mem_toList] at h
  rcases h with ((⟨op, hop, href⟩ | ⟨op, hop, href⟩) | ⟨op, hop, href⟩) | ⟨op, hop, href⟩
  · exact ⟨.get, op, hop, href⟩
  · exact ⟨.post, op, hop, href⟩
  · exact ⟨.put, op, hop, href⟩
  · exact ⟨.delete, op, hop, href⟩

namespace PathMap

theorem mem_refs_addService {service : Service} {ref : String}
    (h : ref ∈ (empty.addService service).refs) :
    ∃ group ∈ service.groups, ∃ route ∈ group.routes, ref ∈ (route.operation service group).refs := by
  obtain ⟨entry, hentry, href⟩ := List.mem_flatMap.mp h
  obtain ⟨method, op, hop, href⟩ := PathItem.mem_refs href
  have hfiled : (empty.addService service).operation? entry.1 method = some op := by
    rw [operation?, get?_eq_some_of_mem _ hentry, Option.bind_some, hop]
  rw [addService_eq_fileAll] at hfiled
  obtain ⟨f, hlast, rfl⟩ := getLast?_fills_of_operation? hfiled
  have hf := (List.mem_filter.mp (List.mem_of_getLast? hlast)).1
  obtain ⟨group, hgroup, hf⟩ := List.mem_flatMap.mp hf
  obtain ⟨route, hroute, rfl⟩ := List.mem_map.mp hf
  exact ⟨group, hgroup, route, hroute, href⟩

end PathMap

namespace Api

/-- Whether a type of the name is declared. -/
def Declares (api : Api) (name : String) : Prop := ∃ type ∈ api.types, type.name = name

instance (api : Api) (name : String) : Decidable (api.Declares name) :=
  inferInstanceAs (Decidable (∃ type ∈ api.types, type.name = name))

/-- Whether everything that a description refers to is declared: named responses, named request
structs with a body member, and the types of json members unless they have a kind. -/
structure Resolved (api : Api) : Prop where
  response : ∀ group ∈ api.service.groups, ∀ route ∈ group.routes, ∀ type ∈ route.response,
    type.name ≠ "" → api.Declares type.name
  request : ∀ group ∈ api.service.groups, ∀ route ∈ group.routes, ∀ type ∈ route.requestStruct?,
    type.name ≠ "" → (∃ m ∈ type.members, m.hasTag Tag.jsonKey ∧ ¬ m.hasTag Tag.pathKey) →
      api.Declares type.name
  member : ∀ type ∈ api.types, ∀ m ∈ type.members, m.hasTag Tag.jsonKey →
    Kind.ofTypeName m.typeName ≠ .unresolved ∨
      ∃ target ∈ api.types, Undecorated target.name ∧ m.typeName ∈ decorations target.name

variable {api : Api}

theorem declares_iff_mem_keys (name : String) :
    api.Declares name ↔ name ∈ api.document.definitions.keys := by
  have hempty : name ∉ (SortedMap.empty : Definitions).keys := List.not_mem_nil
  rw [document, Definitions.mem_keys_addAll, or_iff_left hempty, Declares]

namespace Resolved

theorem declares_of_operation (h : api.Resolved) {group : RouteGroup} {route : Route} {ref : String}
    (hgroup : group ∈ api.service.groups) (hroute : route ∈ group.routes)
    (href : ref ∈ (route.operation api.service group).refs) :
    ∃ name, api.Declares name ∧ ref = definitionRef name := by
  rcases List.mem_append.mp href with href | href
  · have href : ref ∈ route.responseSchema.refs := by
      simpa [Route.operation, SortedMap.single, SortedMap.insertEntry] using href
    obtain ⟨type, hresponse, hname, rfl⟩ := Route.mem_refs_responseSchema href
    exact ⟨type.name, h.response group hgroup route hroute type hresponse hname, rfl⟩
  · obtain ⟨p, hp, href⟩ := List.mem_flatMap.mp href
    obtain ⟨type, hrequest, hname, hbody, rfl⟩ := Route.mem_refs_parameters hp href
    exact ⟨type.name, h.request group hgroup route hroute type hrequest hname hbody, rfl⟩

theorem declares_of_definition (h : api.Resolved) {type : StructType} {ref : String}
    (htype : type ∈ api.types) (href : ref ∈ type.definition.refs) :
    ∃ name, api.Declares name ∧ ref = definitionRef name := by
  obtain ⟨m, hm, hjson, hkind, rfl⟩ := StructType.mem_refs_definition href
  rcases h.member type htype m hm hjson with hknown | ⟨target, htarget, hplain, hspelled⟩
  · exact absurd hkind hknown
  · rw [undecoratedName_of_mem_decorations hplain hspelled]
    exact ⟨target.name, ⟨target, htarget, rfl⟩, rfl⟩

end Resolved

/-- In the document of a description whose types are all declared, every reference at any depth of its
tree leads to a definition. -/
theorem mem_definitions_of_mem_refs (h : api.Resolved) :
    api.document.toJson.refs = api.document.refs ∧
      ∀ ref ∈ api.document.refs,
        ∃ name ∈ api.document.definitions.keys, ref = definitionRef name := by
  refine ⟨api.document.refs_toJson, fun ref href => ?_⟩
  simp only [← declares_iff_mem_keys]
  rcases List.mem_append.mp href with href | href
  · rcases List.mem_append.mp href with href | href
    · obtain ⟨group, hgroup, route, hroute, href⟩ := PathMap.mem_refs_addService href
      exact h.declares_of_operation hgroup hroute href
    · obtain ⟨type, htype, href⟩ := Definitions.mem_refs_addAll href
      exact h.declares_of_definition htype href
  · exact absurd href List.not_mem_nil

/-- A description with references in a response, in a body, in an array of items and in a property. -/
def orders : Api where
  info := ⟨.empty⟩
  service := ⟨"shop", [⟨⟨.empty⟩, [{
    path := "/orders/:id"
    method := "put"
    handler := "replace"
    request := some (.struct ⟨"Order",
      [⟨"Id", "int", "path:\"id\"", ""⟩, ⟨"Items", "[]*Item", "json:\"items\"", ""⟩]⟩)
    response := some (.named "Order")
    docs := []
    docBlock := ⟨"", .empty⟩ }]⟩]⟩
  types := [
    ⟨"Order", [⟨"Items", "[]*Item", "json:\"items\"", ""⟩, ⟨"Next", "*Order", "json:\"next\"", ""⟩]⟩,
    ⟨"Item", [⟨"Count", "int64", "json:\"count\"", ""⟩]⟩]

theorem orders_refs_defined :
    orders.document.toJson.refs = ["#/definitions/Order", "#/definitions/Order",
      "#/definitions/Item", "#/definitions/Order"] ∧
      ∀ ref ∈ orders.document.refs,
        ∃ name ∈ orders.document.definitions.keys, ref = definitionRef name := by
  have h : orders.Resolved :=
    { response := by decide, request := by decide, member := by decide }
  obtain ⟨htree, hdefined⟩ := mem_definitions_of_mem_refs h
  exact ⟨htree.trans (by decide), hdefined⟩

end Api

end SwaggerGen
