import SwaggerGen.Document.Build
import SwaggerGen.Proofs.Parameter.Origin
import SwaggerGen.Proofs.PathMap.Filing
import SwaggerGen.Proofs.PathTemplate.Segments

/-!
# The shape of operations

Whatever the types and the tags of a description say, the operations of its document have one shape:
plain path parameters first, a schema for the body and for nothing else, a type for what is in the query
or in a header, one response and one tag.
-/

namespace SwaggerGen

namespace PathTemplate

theorem count_intercalate {c sep : Char} (h : c ≠ sep) (parts : List (List Char)) :
    ([sep].intercalate parts).count c = parts.flatten.count c := by
  have hsep : (sep == c) = false := beq_false_of_ne h.symm
  induction parts with
  | nil => rfl
  | cons first rest ih =>
      cases rest with
      | nil => simp
      | cons second others =>
          rw [List.intercalate_cons_cons, List.count_append, List.count_append, ih,
            List.flatten_cons, List.count_append]
          simp [List.count_cons, hsep]

theorem length_filterMap_parameterName?_le (parts : List (List Char)) :
    (parts.filterMap parameterName?).length ≤ parts.flatten.count ':' := by
  induction parts with
  | nil => exact Nat.le_refl _
  | cons segment rest ih =>
      rw [List.flatten_cons, List.count_append]
      cases hname : parameterName? segment with
      | none =>
          rw [List.filterMap_cons_none hname]
          omega
      | some name =>
          rw [List.filterMap_cons_some hname, List.length_cons]
          rw [parameterName?_eq_some_iff] at hname
          rw [hname, mark, List.count_cons_self]
          omega

theorem length_parameters_le (path : String) : (parameters path).length ≤ colonCount path := by
  have hpath : ['/'].intercalate (segments path.toList) = path.toList := List.intercalate_splitOn '/'
  rw [parameters, List.length_map, parameterNames, colonCount]
  calc ((segments path.toList).filterMap parameterName?).length
      ≤ (segments path.toList).flatten.count ':' := length_filterMap_parameterName?_le _
    _ = (['/'].intercalate (segments path.toList)).count ':' :=
        (count_intercalate (by decide) _).symm
    _ = path.toList.count ':' := by rw [hpath]

end PathTemplate

namespace Operation

def pathParameters (op : Operation) : List Parameter := op.parameters.filter (·.location = .path)

/-- The shape of an operation. -/
structure WellShaped (op : Operation) : Prop where
  pathFirst : op.pathParameters <+: op.parameters
  path : ∀ p ∈ op.parameters, p.location = .path →
    p.required = true ∧ p.type = "string" ∧ p.format = "" ∧ p.default = none ∧ p.schema = none
  schema_iff : ∀ p ∈ op.parameters, p.schema.isSome ↔ p.location = .body
  body : ∃ name, name ≠ "" ∧ ∀ p ∈ op.parameters, p.location = .body →
    p.name = "body" ∧ p.required = true ∧ p.type = "" ∧ p.format = "" ∧ p.default = none ∧
      p.schema = some (.reference (definitionRef name))
  typed : ∀ p ∈ op.parameters, p.location = .query ∨ p.location = .header → p.type ≠ ""
  response : op.responses.keys = ["200"]
  tag : op.tags.length = 1

end Operation

namespace Route

variable (route : Route) (service : Service) (group : RouteGroup)

theorem pathParameters_operation :
    (route.operation service group).pathParameters = PathTemplate.parameters route.path := by
  have hpath : ∀ p ∈ PathTemplate.parameters route.path, decide (p.location = .path) = true :=
    fun p hp => decide_eq_true (PathTemplate.location_of_mem_parameters hp)
  have hbody : ∀ p ∈ route.bodyParameters, ¬ decide (p.location = .path) = true :=
    fun p hp hlocation => location_ne_path_of_mem_bodyParameters hp (of_decide_eq_true hlocation)
  rw [Operation.pathParameters, operation, parameters_eq_append, List.filter_append,
    List.filter_eq_self.mpr hpath, List.filter_eq_nil_iff.mpr hbody, List.append_nil]

theorem wellShaped_operation : (route.operation service group).WellShaped where
  pathFirst := by
    rw [pathParameters_operation]
    exact List.prefix_append _ _
  path p hp hlocation := by
    cases origin_of_mem_parameters hp with
    | path name => exact ⟨rfl, rfl, rfl, rfl, rfl⟩
    | query | header | body => cases hlocation
  schema_iff p hp := by
    cases origin_of_mem_parameters hp with
    | path | query | header => exact iff_of_false Bool.false_ne_true (fun h => by cases h)
    | body => exact iff_of_true rfl rfl
  body := by
    by_cases hname : route.requestName = ""
    · refine ⟨"body", by decide, fun p hp hlocation => ?_⟩
      cases origin_of_mem_parameters hp with
      | path | query | header => cases hlocation
      | body named => exact absurd hname named
    · refine ⟨route.requestName, hname, fun p hp hlocation => ?_⟩
      cases origin_of_mem_parameters hp with
      | path | query | header => cases hlocation
      | body => exact ⟨rfl, rfl, rfl, rfl, rfl, rfl⟩
  typed p hp hlocation := by
    cases origin_of_mem_parameters hp with
    | path | body => rcases hlocation with h | h <;> cases h
    | query m tag | header m tag => exact m.type_parameter_ne _ tag
  response := rfl
  tag := rfl

end Route

namespace Api

/-- Every operation in a document has the shape of operations. It is that of the last route for its path
and its method, and has at most as many path parameters as the path of that route has colons. -/
theorem wellShaped_of_operation? {api : Api} {path : String} {method : Method} {op : Operation}
    (h : api.document.paths.operation? path method = some op) :
    op.WellShaped ∧
      ∃ f, (api.service.filings.filter (Filing.fills path method)).getLast? = some f ∧
        op = f.operation ∧ op.pathParameters.length ≤ PathTemplate.colonCount f.route.path := by
  rw [document, PathMap.addService_eq_fileAll] at h
  obtain ⟨f, hlast, rfl⟩ := PathMap.getLast?_fills_of_operation? h
  refine ⟨f.route.wellShaped_operation f.service f.group, f, hlast, rfl, ?_⟩
  rw [Filing.operation, Route.pathParameters_operation]
  exact PathTemplate.length_parameters_le f.route.path

/-- A description with parameters of all four kinds, one of them of a type without a kind. -/
def transfers : Api where
  info := ⟨.empty⟩
  service := ⟨"bank", [⟨⟨.empty⟩, [{
    path := "/accounts/:from/transfers/:id"
    method := "Post"
    handler := "transfer"
    request := some (.struct ⟨"Transfer",
      [⟨"Id", "string", "path:\"id\"", ""⟩,
        ⟨"Filter", "[][]Filter", "form:\"filter,optional\" header:\"X-Filter\"", ""⟩,
        ⟨"Amount", "int64", "json:\"amount\"", ""⟩, ⟨"To", "string", "json:\"to\"", ""⟩]⟩)
    response := none
    docs := []
    docBlock := ⟨"", .empty⟩ }]⟩]⟩
  types := []

theorem transfers_wellShaped :
    ∃ op, transfers.document.paths.operation? "/accounts/\x7bfrom\x7d/transfers/\x7bid\x7d" .post =
        some op ∧
      op.parameters.map (·.location) = [.path, .path, .query, .header, .body, .body] ∧
      op.WellShaped ∧
      ∃ f, (transfers.service.filings.filter (Filing.fills
          "/accounts/\x7bfrom\x7d/transfers/\x7bid\x7d" .post)).getLast? = some f ∧
        op = f.operation ∧ op.pathParameters.length ≤ PathTemplate.colonCount f.route.path :=
  ⟨_, rfl, by decide, wellShaped_of_operation? rfl⟩

end Api

end SwaggerGen
