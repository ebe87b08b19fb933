import Mathlib.Data.List.Forall2
import SwaggerGen.Proofs.Parameter.Origin
import SwaggerGen.Proofs.Schema.Content

/-!
# What members contribute to a request

The parameters of a request struct are those of its members, one member behind the other. A member in
the path gives none. Any other member gives one for its first form tag, one for its first header tag, and
the body if it has a json tag. So the body is sent once for each property of the struct's definition
whose member is not in the path.
-/

namespace SwaggerGen

def Tag.IsFirst (key : String) (tags : List Tag) (tag : Tag) : Prop :=
  ∃ before after, tags = before ++ tag :: after ∧ tag.key = key ∧ ∀ other ∈ before, other.key ≠ key

/-- The parameters that a key calls for at a location: one that goes by the first tag with the key, or
none without such a tag. -/
inductive CalledFor (tags : List Tag) (key : String) (location : Location) : List Parameter → Prop
  | absent (h : ∀ tag ∈ tags, tag.key ≠ key) : CalledFor tags key location []
  | first {tag : Tag} {p : Parameter} (h : tag.IsFirst key tags) (hlocation : p.location = location)
      (hname : p.name = tag.name)
      (hrequired : p.required ↔ ∀ option ∈ tag.options, option.name ≠ "optional") :
      CalledFor tags key location [p]

/-- The body parameters that tags call for: the body of a named request for any json tag. -/
inductive BodyCalledFor (requestName : String) (tags : List Tag) : List Parameter → Prop
  | sent (hjson : ∃ tag ∈ tags, tag.key = Tag.jsonKey) (hname : requestName ≠ "") :
      BodyCalledFor requestName tags [Parameter.ofBody requestName]
  | absent (h : ∀ tag ∈ tags, tag.key ≠ Tag.jsonKey) : BodyCalledFor requestName tags []
  | unnamed (h : requestName = "") : BodyCalledFor requestName tags []

namespace Member

/-- What a member gives to the parameters of a request. -/
inductive Contributes (requestName : String) (m : Member) : List Parameter → Prop
  | inPath (h : ∃ tag ∈ m.tags, tag.key = Tag.pathKey) : Contributes requestName m []
  | tagged {queries headers bodies : List Parameter} (hpath : ∀ tag ∈ m.tags, tag.key ≠ Tag.pathKey)
      (hqueries : CalledFor m.tags Tag.formKey .query queries)
      (hheaders : CalledFor m.tags Tag.headerKey .header headers)
      (hbodies : BodyCalledFor requestName m.tags bodies) :
      Contributes requestName m (queries ++ headers ++ bodies)

variable (m : Member) (key requestName : String)

theorem hasTag_iff : m.hasTag key ↔ ∃ tag ∈ m.tags, tag.key = key := by
  simp [hasTag]

theorem not_hasTag_iff : ¬ m.hasTag key ↔ ∀ tag ∈ m.tags, tag.key ≠ key := by
  rw [hasTag_iff]
  simp

theorem tag?_eq_some_iff (tag : Tag) : m.tag? key = some tag ↔ tag.IsFirst key m.tags := by
  rw [tag?, List.find?_eq_some_iff_append, Tag.IsFirst]
  constructor
  · rintro ⟨hkey, before, after, htags, hbefore⟩
    exact ⟨before, after, htags, by simpa using hkey, by simpa using hbefore⟩
  · rintro ⟨before, after, htags, hkey, hbefore⟩
    exact ⟨by simpa using hkey, before, after, htags, by simpa using hbefore⟩

theorem tag?_eq_none_iff : m.tag? key = none ↔ ∀ tag ∈ m.tags, tag.key ≠ key := by
  rw [← not_hasTag_iff, ← isSome_tag?, Option.not_isSome_iff_eq_none]

theorem required_parameter (location : Location) (tag : Tag) :
    (m.parameter location tag).required ↔ ∀ option ∈ tag.options, option.name ≠ "optional" := by
  rw [← Tag.isOptional_eq_false_iff]
  simp [parameter]

theorem calledFor_parameter (location : Location) :
    CalledFor m.tags key location ((m.tag? key).map (m.parameter location)).toList := by
  cases htag : m.tag? key with
  | none => exact .absent ((m.tag?_eq_none_iff key).mp htag)
  | some tag =>
      exact .first ((m.tag?_eq_some_iff key tag).mp htag) rfl rfl (m.required_parameter location tag)

theorem bodyCalledFor :
    BodyCalledFor requestName m.tags
      (if m.hasTag Tag.jsonKey && requestName != "" then [Parameter.ofBody requestName] else []) := by
  split
  · next h =>
      rw [Bool.and_eq_true, bne_iff_ne] at h
      exact .sent ((m.hasTag_iff _).mp h.1) h.2
  · next h =>
      by_cases hname : requestName = ""
      · exact .unnamed hname
      · exact .absent ((m.not_hasTag_iff _).mp fun hjson => h (by simp [hjson, hname]))

theorem contributes_requestParameters :
    m.Contributes requestName (m.requestParameters requestName) := by
  rw [requestParameters]
  split
  · next hpath => exact .inPath ((m.hasTag_iff _).mp hpath)
  · next hpath =>
      exact .tagged ((m.not_hasTag_iff _).mp hpath) (m.calledFor_parameter _ _)
        (m.calledFor_parameter _ _) (m.bodyCalledFor requestName)

variable {requestName}

theorem countP_body_parameter {location : Location} (h : location ≠ .body) :
    ((m.tag? key).map (m.parameter location)).toList.countP (·.location = .body) = 0 := by
  cases m.tag? key with
  | none => rfl
  | some tag => simpa [parameter] using h

theorem countP_body_requestParameters (hname : requestName ≠ "") :
    (m.requestParameters requestName).countP (·.location = .body) =
      if m.hasTag Tag.jsonKey && !m.hasTag Tag.pathKey then 1 else 0 := by
  have hquery : Location.query ≠ .body := by decide
  have hheader : Location.header ≠ .body := by decide
  rw [requestParameters]
  cases m.hasTag Tag.pathKey with
  | true => simp
  | false =>
      rw [if_neg Bool.false_ne_true, List.countP_append, List.countP_append,
        m.countP_body_parameter _ hquery, m.countP_body_parameter _ hheader]
      cases m.hasTag Tag.jsonKey <;> simp [hname, Parameter.ofBody]

end Member

namespace StructType

theorem length_propertyNames_definition (type : StructType) :
    type.definition.propertyNames.length = type.members.countP (·.hasTag Tag.jsonKey) := by
  rw [Schema.propertyNames, getD_properties_definition, List.length_map, List.length_filterMap_eq_countP]
  refine List.countP_congr fun m _ => ?_
  simp [propertyOf, m.isSome_tag?]

theorem countP_body_requestParameters_add {requestName : String} (hname : requestName ≠ "")
    (members : List Member) :
    (members.flatMap (·.requestParameters requestName)).countP (·.location = .body) +
        members.countP (fun m => m.hasTag Tag.jsonKey && m.hasTag Tag.pathKey) =
      members.countP (·.hasTag Tag.jsonKey) := by
  induction members with
  | nil => rfl
  | cons m rest ih =>
      rw [List.flatMap_cons, List.countP_append, m.countP_body_requestParameters hname,
        List.countP_cons, List.countP_cons, ← ih]
      -- a json tag counts for the body, or together with a path tag for the member
      cases m.hasTag Tag.jsonKey <;> cases m.hasTag Tag.pathKey <;> simp <;> omega

/-- The parameters of a request struct are what its members contribute, in member order. If the struct
has a name, the body is sent once for each property of its definition but those of members in the path,
and never without a property. -/
theorem requestParameters_are_contributions (type : StructType) :
    (∃ contributions, List.Forall₂ (Member.Contributes type.name) type.members contributions ∧
      type.requestParameters = contributions.flatten) ∧
    (type.name ≠ "" →
      type.requestParameters.countP (·.location = .body) +
          type.members.countP (fun m => m.hasTag Tag.jsonKey && m.hasTag Tag.pathKey) =
        type.definition.propertyNames.length) ∧
    ∀ p ∈ type.requestParameters, p.location = .body →
      p = Parameter.ofBody type.name ∧ type.definition.propertyNames ≠ [] := by
  refine ⟨⟨type.members.map (Member.requestParameters type.name), ?_, List.flatMap_def⟩, ?_, ?_⟩
  · rw [List.forall₂_map_right_iff, List.forall₂_same]
    exact fun m _ => m.contributes_requestParameters type.name
  · intro hname
    rw [length_propertyNames_definition]
    exact countP_body_requestParameters_add hname type.members
  · intro p hp hlocation
    obtain ⟨m, hm, hp⟩ := List.mem_flatMap.mp hp
    rcases Member.mem_requestParameters hp with ⟨tag, rfl⟩ | ⟨tag, rfl⟩ | ⟨hjson, -, -, rfl⟩
    · cases hlocation
    · cases hlocation
    · refine ⟨rfl, List.ne_nil_of_length_pos ?_⟩
      rw [length_propertyNames_definition]
      exact List.countP_pos_iff.mpr ⟨m, hm, hjson⟩

/-- A request with a json tag in the path, with repeated keys and with a tag that is not closed. -/
def searchRequest : StructType :=
  ⟨"Search", [⟨"ID", "string", "path:\"id\" json:\"id\"", ""⟩,
    ⟨"Lang", "string", "form:\"lang,optional\" header:\"X-Lang\" form:\"l\" json:\"lang\"", ""⟩,
    ⟨"Page", "int", "json:\"page", ""⟩, ⟨"Size", "int", "json:\"size\" json:\"s\"", ""⟩]⟩

theorem searchRequest_bodies :
    searchRequest.name ≠ "" ∧
      searchRequest.requestParameters.map (·.location) = [.query, .header, .body, .body] ∧
      searchRequest.definition.propertyNames = ["id", "lang", "size"] ∧
      searchRequest.requestParameters.countP (·.location = .body) +
          searchRequest.members.countP (fun m => m.hasTag Tag.jsonKey && m.hasTag Tag.pathKey) =
        searchRequest.definition.propertyNames.length := by
  have hname : searchRequest.name ≠ "" := by decide
  exact ⟨hname, by decide, by decide, (requestParameters_are_contributions searchRequest).2.1 hname⟩

end StructType

end SwaggerGen
