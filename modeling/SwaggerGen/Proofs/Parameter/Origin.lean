import SwaggerGen.Operation.Route

/-!
# Where parameters come from

A parameter of a route is that of a mark in its path, the query or header parameter of a member, or the
body of a named request struct. What holds of all parameters is shown for these three.
-/

namespace SwaggerGen

/-- What a parameter of a request is made from: a mark of the path, a tag of a member, or the body of the
request struct, which is named. -/
inductive Parameter.Origin (requestName : String) : Parameter → Prop
  | path (name : String) : Origin requestName (.ofPath name)
  | query (m : Member) (tag : Tag) : Origin requestName (m.parameter .query tag)
  | header (m : Member) (tag : Tag) : Origin requestName (m.parameter .header tag)
  | body (named : requestName ≠ "") : Origin requestName (.ofBody requestName)

/-- The locations that a member is put at by a tag of its own, each with the key of that tag. -/
inductive Location.ReadBy : Location → String → Prop
  | query : ReadBy .query Tag.formKey
  | header : ReadBy .header Tag.headerKey

/-- The type word of a primitive is empty for a sequence of unnamed elements only. -/
theorem Primitive.type_ofKindOrUnknown_ne {kind shown : Kind} {typeName : String}
    (h : kind = .sequence → elementName typeName ≠ "") :
    (ofKindOrUnknown kind typeName shown).type ≠ "" := by
  cases kind with
  | sequence => exact h rfl
  | unresolved => cases shown <;> exact ne_of_beq_false rfl
  | integer | integer64 | boolean | string | float32 | float64 => exact ne_of_beq_false rfl

namespace Member

variable {m : Member} {requestName : String} {p : Parameter}

/-- The parameters of a member without a path tag are those of its first form tag and its first header
tag, and the body if it has a json tag and the request struct a name. -/
theorem mem_requestParameters_iff :
    p ∈ m.requestParameters requestName ↔
      ¬ m.hasTag Tag.pathKey ∧
        ((∃ tag, m.tag? Tag.formKey = some tag ∧ m.parameter .query tag = p) ∨
          (∃ tag, m.tag? Tag.headerKey = some tag ∧ m.parameter .header tag = p) ∨
          (m.hasTag Tag.jsonKey ∧ requestName ≠ "" ∧ p = Parameter.ofBody requestName)) := by
  rw [requestParameters]
  split
  · next hpath => simp [hpath]
  · next hpath =>
      have hbody : (p ∈ if m.hasTag Tag.jsonKey && requestName != "" then
          [Parameter.ofBody requestName] else []) ↔
            m.hasTag Tag.jsonKey ∧ requestName ≠ "" ∧ p = Parameter.ofBody requestName := by
        split <;> simp_all
      rw [and_iff_right hpath]
      simp only [List.mem_append, Option.mem_toList, Option.map_eq_some_iff, hbody, or_assoc]

/-- A member gives its body parameter for its json tag, unless it has a path tag. -/
theorem mem_requestParameters (h : p ∈ m.requestParameters requestName) :
    (∃ tag, p = m.parameter .query tag) ∨ (∃ tag, p = m.parameter .header tag) ∨
      (m.hasTag Tag.jsonKey ∧ ¬ m.hasTag Tag.pathKey ∧ requestName ≠ "" ∧
        p = Parameter.ofBody requestName) := by
  obtain ⟨hpath, ⟨tag, -, rfl⟩ | ⟨tag, -, rfl⟩ | ⟨hjson, hname, rfl⟩⟩ := mem_requestParameters_iff.mp h
  · exact .inl ⟨tag, rfl⟩
  · exact .inr (.inl ⟨tag, rfl⟩)
  · exact .inr (.inr ⟨hjson, hpath, hname, rfl⟩)

theorem mem_requestParameters_and_location_iff {location : Location} {key : String}
    (h : location.ReadBy key) :
    p ∈ m.requestParameters requestName ∧ p.location = location ↔
      ¬ m.hasTag Tag.pathKey ∧ ∃ tag, m.tag? key = some tag ∧ m.parameter location tag = p := by
  rw [mem_requestParameters_iff]
  constructor
  · rintro ⟨⟨hpath, ⟨tag, htag, rfl⟩ | ⟨tag, htag, rfl⟩ | ⟨-, -, rfl⟩⟩, hlocation⟩
    · cases h with
      | query => exact ⟨hpath, tag, htag, rfl⟩
      | header => cases hlocation
    · cases h with
      | query => cases hlocation
      | header => exact ⟨hpath, tag, htag, rfl⟩
    · cases h <;> cases hlocation
  · rintro ⟨hpath, tag, htag, rfl⟩
    cases h with
    | query => exact ⟨⟨hpath, .inl ⟨tag, htag, rfl⟩⟩, rfl⟩
    | header => exact ⟨⟨hpath, .inr (.inl ⟨tag, htag, rfl⟩)⟩, rfl⟩

theorem origin_of_mem_requestParameters (h : p ∈ m.requestParameters requestName) :
    p.Origin requestName := by
  rcases mem_requestParameters h with ⟨tag, rfl⟩ | ⟨tag, rfl⟩ | ⟨-, -, hname, rfl⟩
  · exact .query m tag
  · exact .header m tag
  · exact .body hname

theorem location_ne_path (h : p ∈ m.requestParameters requestName) : p.location ≠ .path := by
  rcases mem_requestParameters h with ⟨tag, rfl⟩ | ⟨tag, rfl⟩ | ⟨-, -, -, rfl⟩ <;>
    exact fun hpath => by cases hpath

theorem type_parameter_ne (location : Location) (tag : Tag) :
    (m.parameter location tag).type ≠ "" := by
  have hempty : Kind.ofTypeName "" ≠ .sequence := by decide
  refine Primitive.type_ofKindOrUnknown_ne fun hkind hname => hempty ?_
  rw [← hname, hkind]

end Member

namespace PathTemplate

theorem location_of_mem_parameters {path : String} {p : Parameter} (h : p ∈ parameters path) :
    p.location = .path := by
  obtain ⟨name, -, rfl⟩ := List.mem_map.mp h
  rfl

end PathTemplate

namespace Route

variable (route : Route)

def requestName : String := (route.requestStruct?.map StructType.name).getD ""

/-- The parameters that come from the request struct. -/
def bodyParameters : List Parameter :=
  (route.requestStruct?.map StructType.requestParameters).getD []

theorem parameters_eq_append :
    route.parameters = PathTemplate.parameters route.path ++ route.bodyParameters := rfl

variable {route} {p : Parameter}

theorem mem_bodyParameters (h : p ∈ route.bodyParameters) :
    ∃ type ∈ route.requestStruct?, ∃ m ∈ type.members, p ∈ m.requestParameters type.name := by
  rw [bodyParameters] at h
  cases htype : route.requestStruct? with
  | none => simp [htype] at h
  | some type =>
      simp only [htype, Option.map_some, Option.getD_some] at h
      obtain ⟨m, hm, hp⟩ := List.mem_flatMap.mp h
      exact ⟨type, rfl, m, hm, hp⟩

theorem location_ne_path_of_mem_bodyParameters (h : p ∈ route.bodyParameters) :
    p.location ≠ .path := by
  obtain ⟨type, -, m, -, hp⟩ := mem_bodyParameters h
  exact Member.location_ne_path hp

theorem origin_of_mem_parameters (h : p ∈ route.parameters) : p.Origin route.requestName := by
  rw [parameters_eq_append] at h
  rcases List.mem_append.mp h with h | h
  · obtain ⟨name, -, rfl⟩ := List.mem_map.mp h
    exact .path _
  · obtain ⟨type, htype, m, -, hp⟩ := mem_bodyParameters h
    have hname : route.requestName = type.name := by
      rw [requestName, Option.mem_def.mp htype]
      rfl
    rw [hname]
    exact Member.origin_of_mem_requestParameters hp

end Route

end SwaggerGen
