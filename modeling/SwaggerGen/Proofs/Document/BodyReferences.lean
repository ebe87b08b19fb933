import SwaggerGen.Proofs.Document.Closure
import SwaggerGen.Proofs.Document.Log

/-!
# References of request bodies

While the routes of a service are filed, the references of their parameters are collected, before it is
known whether an operation stays in the path map. What is collected are the definitions of the named
request structs that have a body, and it covers the parameters of all operations that stay.
-/

namespace SwaggerGen

/-- Whether a struct type is sent as a body: it has a name, and a json member that is not in the path. -/
def StructType.IsBody (type : StructType) : Prop :=
  type.name ≠ "" ∧ ∃ m ∈ type.members, m.hasTag Tag.jsonKey ∧ ¬ m.hasTag Tag.pathKey

theorem StructType.IsBody.mem_requestParameters {type : StructType} (h : type.IsBody) :
    Parameter.ofBody type.name ∈ type.requestParameters := by
  obtain ⟨hname, m, hm, hjson, hpath⟩ := h
  refine List.mem_flatMap.mpr ⟨m, hm, ?_⟩
  exact Member.mem_requestParameters_iff.mpr ⟨hpath, .inr (.inr ⟨hjson, hname, rfl⟩)⟩

namespace Route

variable {route : Route} {ref : String}

theorem exists_body_of_mem_refs {p : Parameter} (hp : p ∈ route.parameters) (h : ref ∈ p.refs) :
    ∃ type ∈ route.requestStruct?, type.IsBody ∧ ref = definitionRef type.name := by
  obtain ⟨type, hrequest, hname, hbody, href⟩ := mem_refs_parameters hp h
  exact ⟨type, hrequest, ⟨hname, hbody⟩, href⟩

/-- The references of a route are those to its request struct, if that is a body. -/
theorem mem_references_iff :
    ref ∈ route.references ↔
      ∃ type ∈ route.requestStruct?, type.IsBody ∧ ref = definitionRef type.name := by
  rw [references, List.mem_filter, List.mem_filterMap]
  constructor
  · rintro ⟨⟨p, hp, href⟩, -⟩
    obtain ⟨schema, hschema, hown⟩ := Option.bind_eq_some_iff.mp href
    have hmem : ref ∈ p.refs := by
      simp [Parameter.refs, hschema, Schema.refs_eq, hown]
    exact exists_body_of_mem_refs hp hmem
  · rintro ⟨type, hrequest, hbody, rfl⟩
    have hne : definitionRef type.name ≠ "" := by
      intro h
      have hlength := congrArg String.length h
      simp [definitionRef] at hlength
    refine ⟨⟨Parameter.ofBody type.name, ?_, rfl⟩, by simpa using hne⟩
    rw [parameters, Option.mem_def.mp hrequest]
    exact List.mem_append_right _ hbody.mem_requestParameters

end Route

def PathItem.operations (item : PathItem) : List Operation :=
  item.get.toList ++ item.post.toList ++ item.put.toList ++ item.delete.toList

theorem PathItem.mem_operations_iff (item : PathItem) (op : Operation) :
    op ∈ item.operations ↔ ∃ method, item.operation? method = some op := by
  simp only [operations, List.mem_append, Option.mem_toList]
  constructor
  · rintro (((h | h) | h) | h)
    · exact ⟨.get, h⟩
    · exact ⟨.post, h⟩
    · exact ⟨.put, h⟩
    · exact ⟨.delete, h⟩
  · rintro ⟨method, h⟩
    cases method with
    | get => exact .inl (.inl (.inl h))
    | post => exact .inl (.inl (.inr h))
    | put => exact .inl (.inr h)
    | delete => exact .inr h

namespace PathMap

variable {m : PathMap} {ref : String}

def parameterRefs (m : PathMap) : List String :=
  m.toList.flatMap fun entry => entry.2.operations.flatMap fun op => op.parameters.flatMap (·.refs)

theorem mem_parameterRefs_iff :
    ref ∈ m.parameterRefs ↔ ∃ path method op, m.operation? path method = some op ∧
      ∃ p ∈ op.parameters, ref ∈ p.refs := by
  simp only [parameterRefs, List.mem_flatMap, PathItem.mem_operations_iff]
  constructor
  · rintro ⟨entry, hentry, op, ⟨method, hop⟩, hp⟩
    refine ⟨entry.1, method, op, ?_, hp⟩
    rw [operation?, get?_eq_some_of_mem m hentry, Option.bind_some, hop]
  · rintro ⟨path, method, op, hop, hp⟩
    obtain ⟨item, hitem, hop⟩ := Option.bind_eq_some_iff.mp hop
    obtain ⟨before, after, hsplit, -⟩ := List.lookup_eq_some_iff.mp hitem
    exact ⟨(path, item), by simp [hsplit], op, ⟨method, hop⟩, hp⟩

end PathMap

theorem SortedMap.mem_keys_foldl_insert {keys : List String} {m : SortedMap Unit} {key : String} :
    key ∈ (keys.foldl (fun m key => m.insert key ()) m).keys ↔ key ∈ keys ∨ key ∈ m.keys := by
  induction keys generalizing m with
  | nil => simp
  | cons first rest ih =>
      rw [List.foldl_cons, ih, mem_keys_insert, List.mem_cons, or_assoc, or_left_comm]

namespace Conversion

variable {c : Conversion} {before : PathMap} {service : Service}

theorem mem_references_addRoute {found : RouteGroup × Route} {ref : String} :
    ref ∈ (c.addRoute service found).references.keys ↔
      ref ∈ found.2.references ∨ ref ∈ c.references.keys :=
  SortedMap.mem_keys_foldl_insert

/-- Whether what is collected covers the parameters of all operations that were not there before. -/
def Covers (before : PathMap) (c : Conversion) : Prop :=
  c.paths.parameterRefs ⊆ before.parameterRefs ++ c.references.keys

theorem Covers.addRoute (h : c.Covers before) (found : RouteGroup × Route) :
    (c.addRoute service found).Covers before := by
  intro ref href
  rw [List.mem_append, mem_references_addRoute]
  obtain ⟨path, method, op, hop, p, hp, href⟩ := PathMap.mem_parameterRefs_iff.mp href
  rw [operation?_addRoute] at hop
  split at hop
  · obtain rfl := Option.some.inj hop
    exact .inr (.inl (Route.mem_references_iff.mpr (Route.exists_body_of_mem_refs hp href)))
  · have hold := h (PathMap.mem_parameterRefs_iff.mpr ⟨path, method, op, hop, p, hp, href⟩)
    exact (List.mem_append.mp hold).imp_right .inr

end Conversion

namespace Service

/-- Files the routes of a service in a path map and collects their references, in one pass. -/
def render (service : Service) (paths : PathMap) : Conversion :=
  service.discovered.foldl (Conversion.addRoute service) ⟨paths, .empty, .empty, []⟩

theorem paths_render (service : Service) (paths : PathMap) :
    (service.render paths).paths = paths.addService service := by
  rw [render, Conversion.foldl_addRoute, PathMap.addService]

theorem keys_references_render (service : Service) (paths : PathMap) :
    (service.render paths).references.keys = service.referenced := by
  rw [render, Conversion.foldl_addRoute, referenced, SortedMap.ofList, List.foldl_map]

theorem covers_render (service : Service) (paths : PathMap) :
    (service.render paths).Covers paths :=
  List.foldlRecOn service.discovered (Conversion.addRoute service)
    (List.subset_append_left paths.parameterRefs _) fun _ h found _ => h.addRoute found

theorem mem_referenced_iff {service : Service} {ref : String} :
    ref ∈ service.referenced ↔
      ∃ group ∈ service.groups, ∃ route ∈ group.routes, ref ∈ route.references := by
  rw [referenced, SortedMap.ofList, List.foldl_map, SortedMap.mem_keys_foldl_insert]
  simp only [discovered, List.mem_flatMap, List.mem_map]
  constructor
  · rintro (⟨-, ⟨group, hgroup, route, hroute, rfl⟩, href⟩ | hempty)
    · exact ⟨group, hgroup, route, hroute, href⟩
    · exact absurd hempty List.not_mem_nil
  · rintro ⟨group, hgroup, route, hroute, href⟩
    exact .inl ⟨(group, route), ⟨group, hgroup, route, hroute, rfl⟩, href⟩

/-- The references that a service collects are those to the definitions of its named request structs with
a body, whatever the methods of the routes are and whatever was in the path map. They cover the
parameters of all operations that the service leaves in an empty map. -/
theorem references_are_those_of_bodies (service : Service) :
    (∀ paths : PathMap,
      (service.render paths).paths = paths.addService service ∧
      (service.render paths).references.keys = service.referenced ∧
      ∀ ref, ref ∈ (service.render paths).references.keys ↔
        ∃ group ∈ service.groups, ∃ route ∈ group.routes, ∃ type ∈ route.requestStruct?,
          type.IsBody ∧ ref = "#/definitions/" ++ type.name) ∧
    ((PathMap.empty.addService service).parameterRefs ⊆ service.referenced) := by
  refine ⟨fun paths => ⟨paths_render service paths, keys_references_render service paths,
    fun ref => ?_⟩, ?_⟩
  · rw [keys_references_render, mem_referenced_iff]
    simp only [Route.mem_references_iff]
    rfl
  · have hcovers := covers_render service .empty
    rw [Conversion.Covers, paths_render, keys_references_render] at hcovers
    exact hcovers

end Service

end SwaggerGen
