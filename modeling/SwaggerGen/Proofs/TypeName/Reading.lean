import SwaggerGen.Proofs.Document.Closure
import SwaggerGen.Proofs.TypeName.Spelling

/-!
# Where type names are read

A type name is read for the property of a member, for a parameter, and for a response. A property and a
parameter take it for the same, unless the name has a kind only without its `[]`. A response refers to
the name as it is written, which is what a property does for the plain name of a struct.
-/

namespace SwaggerGen

namespace Primitive

variable {kind : Kind}

theorem ofKindOrUnknown_eq_unknown_iff (typeName : String) :
    ofKindOrUnknown kind typeName kind = unknown .unresolved ↔ kind = .unresolved := by
  cases kind with
  | sequence => simp [ofKindOrUnknown, ofKind?, unknown]
  | integer | integer64 | boolean | string | float32 | float64 | unresolved =>
      simp [ofKindOrUnknown, ofKind?, unknown]

theorem ofKindOrUnknown_of_isScalar (h : kind.IsScalar) (typeName other : String)
    (shown shownOther : Kind) :
    ofKindOrUnknown kind typeName shown = ofKindOrUnknown kind other shownOther := by
  cases kind with
  | sequence => exact absurd rfl h.1
  | unresolved => exact absurd rfl h.2
  | integer | integer64 | boolean | string | float32 | float64 => rfl

/-- The primitives of the scalar kinds. -/
def scalars : List Primitive :=
  [⟨"integer", "int32"⟩, ⟨"integer", "int64"⟩, ⟨"boolean", "boolean"⟩, ⟨"string", ""⟩,
    ⟨"number", "float"⟩, ⟨"number", "double"⟩]

theorem ofKindOrUnknown_mem_scalars (h : kind.IsScalar) (typeName : String) (shown : Kind) :
    ofKindOrUnknown kind typeName shown ∈ scalars := by
  cases kind with
  | sequence => exact absurd rfl h.1
  | unresolved => exact absurd rfl h.2
  | integer | integer64 | boolean | string | float32 | float64 =>
      simp [ofKindOrUnknown, ofKind?, scalars]

end Primitive

namespace Schema

/-- A schema without a description and a default of its own. -/
def bare (schema : Schema) : Schema := { schema with description := "", default := none }

theorem bare_eq_self {schema : Schema} (hdescription : schema.description = "")
    (hdefault : schema.default = none) : schema.bare = schema := by
  cases schema
  simp_all [bare]

theorem ofTypeName_of_isScalar {typeName : String} {kind : Kind} (h : Kind.ofTypeName typeName = kind)
    (hscalar : kind.IsScalar) :
    ofTypeName typeName = .ofPrimitive (Primitive.ofKindOrUnknown kind typeName kind) := by
  rw [ofTypeName, h]
  cases kind with
  | sequence => exact absurd rfl hscalar.1
  | unresolved => exact absurd rfl hscalar.2
  | integer | integer64 | boolean | string | float32 | float64 => rfl

theorem ofTypeName_of_sequence {typeName : String} (h : Kind.ofTypeName typeName = .sequence) :
    ofTypeName typeName = .array (.ofPrimitive
      (Primitive.ofKindOrUnknown (Kind.ofTypeName (elementName typeName)) typeName .sequence)) := by
  rw [ofTypeName, h]

theorem bare_ofTypeName (typeName : String) : (ofTypeName typeName).bare = ofTypeName typeName := by
  rw [ofTypeName]
  split
  · split <;> rfl
  · rfl
  · rfl

end Schema

theorem Member.bare_schema (m : Member) : m.schema.bare = Schema.ofTypeName m.typeName := by
  rw [← Schema.bare_ofTypeName]
  rfl

def Parameter.primitive (p : Parameter) : Primitive := ⟨p.type, p.format⟩

namespace Member

/-- Whether a parameter and the property of a member take its type for the same: the one for an unknown
type and the other for a reference, or both for one primitive, of which the property may be an array. -/
structure ReadsAlike (m : Member) (p : Parameter) : Prop where
  unknown_iff : p.primitive = ⟨"invalid", "UNKNOWN"⟩ ↔ m.schema.refs ≠ []
  primitive : p.primitive ≠ ⟨"invalid", "UNKNOWN"⟩ →
    m.schema.bare = .ofPrimitive p.primitive ∨ m.schema.bare = .array (.ofPrimitive p.primitive)

variable (m : Member) (location : Location) (tag : Tag)

theorem primitive_parameter :
    (m.parameter location tag).primitive =
      Primitive.ofKindOrUnknown (Kind.ofTypeName (elementName m.typeName)) m.typeName
        (Kind.ofTypeName (elementName m.typeName)) := rfl

theorem primitive_parameter_eq_unknown_iff :
    (m.parameter location tag).primitive = ⟨"invalid", "UNKNOWN"⟩ ↔
      elementName m.typeName ∉ Kind.spellings := by
  rw [primitive_parameter, Kind.mem_spellings_iff, not_not]
  exact Primitive.ofKindOrUnknown_eq_unknown_iff m.typeName

theorem refs_schema_ne_nil_iff : m.schema.refs ≠ [] ↔ m.typeName ∉ Kind.spellings := by
  rw [refs_schema, Schema.refs_ofTypeName, Kind.mem_spellings_iff, not_not]
  split
  · next h => simp [h]
  · next h => simp [h]

theorem bare_schema_of_mem_spellings (h : m.typeName ∈ Kind.spellings) :
    m.schema.bare = .ofPrimitive (m.parameter location tag).primitive ∨
      m.schema.bare = .array (.ofPrimitive (m.parameter location tag).primitive) := by
  obtain ⟨kind, hspelling⟩ := Kind.mem_spellings_iff_exists_spelling.mp h
  obtain ⟨hscalar, rfl | rfl⟩ := hspelling.isScalar_elementName
  · left
    rw [bare_schema, primitive_parameter,
      Schema.ofTypeName_of_isScalar hspelling.ofTypeName_eq hscalar]
  · right
    rw [bare_schema, primitive_parameter, Schema.ofTypeName_of_sequence hspelling.ofTypeName_eq,
      Primitive.ofKindOrUnknown_of_isScalar hscalar m.typeName m.typeName .sequence]

/-- A parameter and the property of a member read its type alike, except when the type name spells no
scalar by itself but does so without its `[]`. -/
theorem readsAlike_iff (m : Member) (location : Location) (tag : Tag) :
    m.ReadsAlike (m.parameter location tag) ↔
      (elementName m.typeName ∈ Kind.spellings → m.typeName ∈ Kind.spellings) := by
  constructor
  · rintro ⟨hunknown, -⟩
    rw [primitive_parameter_eq_unknown_iff, refs_schema_ne_nil_iff] at hunknown
    exact not_imp_not.mp hunknown.mpr
  · intro h
    -- a name that spells a scalar does so without its `[]` as well
    have hspelled : elementName m.typeName ∈ Kind.spellings ↔ m.typeName ∈ Kind.spellings :=
      ⟨h, Kind.elementName_mem_spellings⟩
    refine ⟨?_, fun hknown => ?_⟩
    · rw [primitive_parameter_eq_unknown_iff, refs_schema_ne_nil_iff, hspelled]
    · rw [Ne, primitive_parameter_eq_unknown_iff, not_not] at hknown
      exact m.bare_schema_of_mem_spellings location tag (hspelled.mp hknown)

/-- A slice of pointers to a scalar is an integer as a parameter, and a reference as a property. -/
theorem not_forall_readsAlike :
    ¬ ∀ (m : Member) (location : Location) (tag : Tag), m.ReadsAlike (m.parameter location tag) := by
  intro h
  let m : Member := ⟨"Sizes", "[]*int", "form:\"sizes\" json:\"sizes\"", ""⟩
  have hrefs : m.schema.refs ≠ [] := m.refs_schema_ne_nil_iff.mpr (by decide)
  have hunknown := (h m .query ⟨"form", "sizes", []⟩).unknown_iff.mpr hrefs
  exact absurd hunknown (by decide)

end Member

theorem undecoratedName_eq_self_iff (typeName : String) :
    undecoratedName typeName = typeName ↔ Undecorated typeName := by
  constructor
  · intro h
    have hlist : ((typeName.toList.erase '[').erase ']').erase '*' = typeName.toList := by
      simpa [← String.toList_inj, undecoratedName] using h
    -- nothing is lost in the end, so no step took a character out
    have hopen : typeName.toList.erase '[' = typeName.toList := by
      apply List.erase_sublist.antisymm
      conv_lhs => rw [← hlist]
      exact List.erase_sublist.trans List.erase_sublist
    rw [hopen] at hlist
    have hclose : typeName.toList.erase ']' = typeName.toList := by
      apply List.erase_sublist.antisymm
      conv_lhs => rw [← hlist]
      exact List.erase_sublist
    rw [hclose] at hlist
    exact ⟨List.erase_eq_self_iff.mp hopen, List.erase_eq_self_iff.mp hclose,
      List.erase_eq_self_iff.mp hlist⟩
  · exact fun h => undecoratedName_eq_self typeName h.1 h.2.1 h.2.2

theorem Kind.ofScalar?_eq_none_iff (typeName : String) :
    ofScalar? typeName = none ↔ typeName ∉ scalars.map Prod.fst := by
  rw [ofScalar?, List.lookup_eq_none_iff, List.mem_map, not_exists]
  simp only [bne_iff_ne, not_and]
  exact forall₂_congr fun scalar _ => ne_comm

theorem Kind.ofTypeName_eq_unresolved_iff {typeName : String} (h : Undecorated typeName) :
    ofTypeName typeName = unresolved ↔ ofScalar? typeName = none := by
  constructor
  · intro hkind
    rw [Option.eq_none_iff_forall_ne_some]
    intro kind hscalar
    rw [ofTypeName_of_ofScalar? hscalar] at hkind
    exact ofScalar?_ne_unresolved typeName (hkind ▸ hscalar)
  · intro hscalar
    by_contra hkind
    obtain ⟨kind, hspelling⟩ := exists_spelling hkind
    cases hspelling with
    | bare hname => rw [hname] at hscalar; cases hscalar
    | pointer => exact h.2.2 (by simp)
    | slice => exact h.1 (by simp)

/-- The schema of a type name is the reference to the name as it is written exactly for a plain name that
is not that of a scalar. -/
theorem Schema.ofTypeName_eq_reference_iff (typeName : String) :
    ofTypeName typeName = .reference (definitionRef typeName) ↔
      typeName ∉ Kind.scalars.map Prod.fst ∧ Undecorated typeName := by
  rw [← Kind.ofScalar?_eq_none_iff]
  constructor
  · intro h
    have hrefs : (ofTypeName typeName).refs = [definitionRef typeName] := by rw [h, refs_reference]
    rw [refs_ofTypeName] at hrefs
    split at hrefs
    · next hkind =>
        have hname := definitionRef_injective _ _ (List.singleton_inj.mp hrefs)
        have hplain := (undecoratedName_eq_self_iff typeName).mp hname
        exact ⟨(Kind.ofTypeName_eq_unresolved_iff hplain).mp hkind, hplain⟩
    · cases hrefs
  · rintro ⟨hscalar, hplain⟩
    have hkind := (Kind.ofTypeName_eq_unresolved_iff hplain).mpr hscalar
    have hslice : ¬ ['[', ']'].isPrefixOf typeName.toList = true := by
      rw [List.isPrefixOf_iff_prefix]
      exact fun hslice => hplain.1 (hslice.subset List.mem_cons_self)
    rw [ofTypeName, hkind]
    simp only [if_neg hslice, (undecoratedName_eq_self_iff typeName).mpr hplain]

/-- A member that refers to a struct. -/
def Member.owner : Member := ⟨"Owner", "User", "json:\"owner\"", ""⟩

namespace Route

/-- The response of a route with a named type refers to that name as it is written. A member of the type,
without a comment and a default, has the same schema exactly if the name is a plain one and not that of a
scalar. -/
theorem responseSchema_eq_schema_iff (route : Route) (m : Member)
    (hresponse : route.response = some (.named m.typeName)) (hname : m.typeName ≠ "")
    (hcomment : m.comment = "") (hdefault : m.schema.default = none) (service : Service)
    (group : RouteGroup) :
    ∃ response, (route.operation service group).responses.toList = [("200", response)] ∧
      response.schema = .reference ("#/definitions/" ++ m.typeName) ∧
      (response.schema = m.schema ↔
        m.typeName ∉ Kind.scalars.map Prod.fst ∧ Undecorated m.typeName) := by
  have hreference : route.responseSchema = .reference (definitionRef m.typeName) := by
    rw [responseSchema, hresponse]
    exact if_neg hname
  have hschema : m.schema = Schema.ofTypeName m.typeName := by
    have hdescription : m.schema.description = "" := by
      change m.description = ""
      rw [Member.description, hcomment]
      rfl
    rw [← Member.bare_schema, Schema.bare_eq_self hdescription hdefault]
  refine ⟨⟨"A successful response.", route.responseSchema⟩, rfl, hreference, ?_⟩
  rw [hreference, hschema, eq_comm, Schema.ofTypeName_eq_reference_iff]

/-- A route that answers with a type of the given name. -/
def answering (typeName : String) : Route :=
  ⟨"/answer", "get", "answer", none, some (.named typeName), [], ⟨"", .empty⟩⟩

theorem responseSchema_answering_owner :
    (answering "User").response = some (.named Member.owner.typeName) ∧
      Member.owner.typeName ≠ "" ∧ Member.owner.comment = "" ∧ Member.owner.schema.default = none ∧
      ∃ response, ((answering "User").operation ⟨"users", []⟩ ⟨⟨.empty⟩, []⟩).responses.toList =
          [("200", response)] ∧
        response.schema = .reference "#/definitions/User" ∧
          response.schema = Member.owner.schema := by
  have hdefault : Member.owner.schema.default = none := by decide
  obtain ⟨response, hresponse, hreference, hequal⟩ :=
    responseSchema_eq_schema_iff (answering "User") Member.owner rfl (by decide) rfl hdefault
      ⟨"users", []⟩ ⟨⟨.empty⟩, []⟩
  exact ⟨rfl, by decide, rfl, hdefault, response, hresponse, hreference, hequal.mpr (by decide)⟩

/-- A response of texts refers to a definition of the name `string`, where a property is a text. -/
theorem not_forall_responseSchema_eq_schema :
    ¬ ∀ (route : Route) (m : Member) (service : Service) (group : RouteGroup),
      route.response = some (.named m.typeName) → m.typeName ≠ "" → m.comment = "" →
      m.schema.default = none → ∀ response,
        (route.operation service group).responses.get? "200" = some response →
          response.schema = m.schema := by
  intro h
  have heq := h (answering "string") ⟨"Name", "string", "", ""⟩ ⟨"users", []⟩ ⟨⟨.empty⟩, []⟩ rfl
    (by decide) rfl (by decide) _ rfl
  have href := congrArg Schema.ref heq
  exact absurd href (by decide)

end Route

end SwaggerGen
