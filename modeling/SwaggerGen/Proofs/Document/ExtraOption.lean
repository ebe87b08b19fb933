import SwaggerGen.Document.Build
import SwaggerGen.Proofs.PathMap.Separation
import SwaggerGen.Proofs.Schema.Definitions
import SwaggerGen.Proofs.Schema.ExtraOption

/-!
# Descriptions with one option more

An unknown option in one tag of one member leaves the document as it is, with one exception: as the
first option of a json tag it takes the name of the tag off the required names of the definition, if an
earlier member has made the same name required.
-/

namespace SwaggerGen

/-- A route, and the route with an unknown option more in its request struct. -/
inductive Route.ExtraOption : Route → Route → Prop
  | intro (route : Route) {type other : StructType} (hrequest : route.request = some (.struct type))
      (h : type.ExtraOption other) :
      ExtraOption route { route with request := some (.struct other) }

inductive RouteGroup.ExtraOption : RouteGroup → RouteGroup → Prop
  | intro (server : ServerBlock) {routes others : List Route}
      (h : ReplacesOne Route.ExtraOption routes others) : ExtraOption ⟨server, routes⟩ ⟨server, others⟩

/-- A service, and the service with an unknown option more in one of its groups. -/
inductive Service.ExtraOption : Service → Service → Prop
  | intro (name : String) {groups others : List RouteGroup}
      (h : ReplacesOne RouteGroup.ExtraOption groups others) : ExtraOption ⟨name, groups⟩ ⟨name, others⟩

theorem Route.ExtraOption.parameters_eq {route other : Route} (h : route.ExtraOption other) :
    other.parameters = route.parameters := by
  obtain ⟨hrequest, h⟩ := h
  rw [parameters, parameters, requestStruct?, requestStruct?, hrequest]
  simp only [Option.bind_some, TypeRef.struct?, Option.map_some, h.requestParameters_eq]

theorem Route.ExtraOption.entry_eq {route other : Route} (h : route.ExtraOption other)
    (service : Service) (group : RouteGroup) :
    (Filing.mk service group other).entry = (Filing.mk service group route).entry := by
  have hoperation : other.operation service group = route.operation service group := by
    rw [operation, operation, h.parameters_eq]
    cases h
    rfl
  have hchange : (Filing.mk service group other).change = (Filing.mk service group route).change := by
    funext item
    simp only [Filing.change, Filing.operation, hoperation]
    cases h
    rfl
  rw [Filing.entry, Filing.entry, hchange]
  cases h
  rfl

theorem Service.ExtraOption.map_entry_filings_eq {service other : Service}
    (h : service.ExtraOption other) :
    other.filings.map Filing.entry = service.filings.map Filing.entry := by
  obtain ⟨name, h⟩ := h
  rename_i groups others
  rw [filings, filings, List.map_flatMap, List.map_flatMap]
  simp only [List.map_map]
  -- an entry takes no more than its name from the service
  have hname : ∀ group, Filing.entry ∘ Filing.mk ⟨name, others⟩ group =
      Filing.entry ∘ Filing.mk ⟨name, groups⟩ group := fun _ => rfl
  simp only [hname]
  apply h.flatMap_eq
  rintro _ _ ⟨server, hroutes⟩
  exact hroutes.map_eq fun route other hroute => hroute.entry_eq _ _

theorem Service.ExtraOption.addService_eq {service other : Service} (h : service.ExtraOption other)
    (m : PathMap) : m.addService other = m.addService service := by
  rw [PathMap.addService_eq_fileAll, PathMap.addService_eq_fileAll, PathMap.fileAll_eq_foldl_update,
    PathMap.fileAll_eq_foldl_update, h.map_entry_filings_eq]

namespace StructType

variable {type other : StructType}

theorem ExtraOption.definition_eq_of_kept (h : type.ExtraOption other)
    (hkept : ¬ type.LosesRepeat other) : other.definition = type.definition := by
  rw [h.definition_eq, h.required_eq hkept]
  rfl

theorem LosesRepeat.extraOption (h : type.LosesRepeat other) : type.ExtraOption other := by
  obtain ⟨name, before, h, after⟩ := h
  exact .intro name before h after

end StructType

theorem Definitions.addAll_replace {before after : List StructType} {type other : StructType}
    (hname : other.name = type.name) (h : other.definition = type.definition ∨
      ¬ ∀ later ∈ after, later.name ≠ type.name) (definitions : Definitions) :
    definitions.addAll (before ++ other :: after) = definitions.addAll (before ++ type :: after) := by
  apply SortedMap.ext_get?
  intro name
  rw [get?_addAll_append_cons, get?_addAll_append_cons, hname]
  rcases h with h | h
  · rw [h]
  · have hnever : ¬ (type.name = name ∧ ∀ later ∈ after, later.name ≠ name) := by
      rintro ⟨rfl, hlast⟩
      exact h hlast
    rw [if_neg hnever, if_neg hnever]

theorem Definitions.addAll_replace_last {before after : List StructType} {type other : StructType}
    (hname : other.name = type.name) (hlast : ∀ later ∈ after, later.name ≠ type.name)
    (definitions : Definitions) :
    definitions.addAll (before ++ other :: after) =
      (definitions.addAll (before ++ type :: after)).insert type.name other.definition := by
  apply SortedMap.ext_get?
  intro name
  rw [SortedMap.get?_insert, get?_addAll_append_cons, get?_addAll_append_cons, hname]
  by_cases h : type.name = name
  · subst h
    rw [if_pos ⟨rfl, hlast⟩, if_pos rfl]
  · have hother : ¬ (type.name = name ∧ ∀ later ∈ after, later.name ≠ name) := fun hboth => h hboth.1
    rw [if_neg hother, if_neg (Ne.symm h), if_neg hother]

namespace Api

/-- A description, and the description with an unknown option more: in a declared type, or in a request
struct. -/
inductive ExtraOption : Api → Api → Prop
  | declared (info : InfoBlock) (service : Service) (before : List StructType)
      {type other : StructType} (h : type.ExtraOption other) (after : List StructType) :
      ExtraOption ⟨info, service, before ++ type :: after⟩ ⟨info, service, before ++ other :: after⟩
  | requested (info : InfoBlock) {service other : Service} (h : service.ExtraOption other)
      (types : List StructType) : ExtraOption ⟨info, service, types⟩ ⟨info, other, types⟩

/-- Whether the option stands in a declared type that is the last of its name, and takes a repetition
off the required names of the type. -/
inductive LosesRepeat : Api → Api → Prop
  | intro (info : InfoBlock) (service : Service) (before : List StructType)
      {type other : StructType} (h : type.LosesRepeat other) (after : List StructType)
      (hlast : ∀ later ∈ after, later.name ≠ type.name) :
      LosesRepeat ⟨info, service, before ++ type :: after⟩ ⟨info, service, before ++ other :: after⟩

variable {api other : Api}

theorem ExtraOption.document_eq (h : api.ExtraOption other) (hkept : ¬ api.LosesRepeat other) :
    other.document = api.document := by
  cases h with
  | declared info service before h after =>
      rename_i type other
      have hdefinitions : other.definition = type.definition ∨
          ¬ ∀ later ∈ after, later.name ≠ type.name := by
        by_cases hlast : ∀ later ∈ after, later.name ≠ type.name
        · refine .inl (h.definition_eq_of_kept fun hrepeat => hkept ?_)
          exact .intro info service before hrepeat after hlast
        · exact .inr hlast
      rw [document, document, Definitions.addAll_replace h.name_eq hdefinitions]
  | requested info h types =>
      rw [document, document, h.addService_eq]

/-- What is lost: the definition stays but for one of the required names, which is there before it. -/
theorem LosesRepeat.exists_document_eq (h : api.LosesRepeat other) :
    ∃ name definition front repeated back,
      api.document.definitions.get? name = some definition ∧
      definition.required = front ++ repeated :: back ∧ repeated ∈ front ∧
      other.document = { api.document with
        definitions := api.document.definitions.insert name
          { definition with required := front ++ back } } := by
  obtain ⟨info, service, before, h, after, hlast⟩ := h
  rename_i type other
  obtain ⟨front, repeated, back, hmem, htype, hother⟩ := h.exists_required_eq
  have hname := h.extraOption.name_eq
  have hdefinition : other.definition = { type.definition with required := front ++ back } := by
    rw [h.extraOption.definition_eq, hother]
  refine ⟨type.name, type.definition, front, repeated, back, ?_, htype, hmem, ?_⟩
  · rw [document, Definitions.get?_addAll_append_cons, if_pos ⟨rfl, hlast⟩]
  · rw [document, document, Definitions.addAll_replace_last hname hlast, hdefinition]

theorem LosesRepeat.document_ne (h : api.LosesRepeat other) : other.document ≠ api.document := by
  obtain ⟨name, definition, front, repeated, back, hget, hrequired, -, hdocument⟩ :=
    h.exists_document_eq
  intro heq
  have hsame : (api.document.definitions.insert name
      { definition with required := front ++ back }).get? name = some definition := by
    rw [← hget]
    exact congrArg (fun d : Document => d.definitions.get? name) (hdocument.symm.trans heq)
  rw [SortedMap.get?_insert, if_pos rfl] at hsame
  have hlength := congrArg (fun schema : Schema => schema.required.length) (Option.some.inj hsame)
  simp [hrequired] at hlength

/-- An unknown option in a json, form or header tag leaves the document as it is, unless it takes a
repetition off the required names of a definition; then nothing else changes. -/
theorem document_eq_iff_of_extraOption (h : api.ExtraOption other) :
    (other.document = api.document ↔ ¬ api.LosesRepeat other) ∧
      (api.LosesRepeat other → ∃ name definition front repeated back,
        api.document.definitions.get? name = some definition ∧
        definition.required = front ++ repeated :: back ∧ repeated ∈ front ∧
        other.document = { api.document with
          definitions := api.document.definitions.insert name
            { definition with required := front ++ back } }) := by
  refine ⟨⟨?_, h.document_eq⟩, LosesRepeat.exists_document_eq⟩
  intro heq hrepeat
  exact hrepeat.document_ne heq

theorem LosesRepeat.types_ne_nil (h : api.LosesRepeat other) : api.types ≠ [] := by
  obtain ⟨info, service, before, h, after, hlast⟩ := h
  simp

/-- A description with one route, whose request has one member with the given tags. -/
def search (tag : String) : Api where
  info := ⟨.empty⟩
  service := ⟨"shop", [⟨⟨.empty⟩, [{
    path := "/items"
    method := "get"
    handler := "search"
    request := some (.struct ⟨"Search", [⟨"Query", "string", tag, ""⟩]⟩)
    response := none
    docs := []
    docBlock := ⟨"", .empty⟩ }]⟩]⟩
  types := []

theorem search_document_eq :
    (search "q form:\"q\" header:\"X, options=a|b ,optional\"").document =
      (search "q form:\"q\" header:\"X,optional\"").document := by
  have hheader := TagEntry.ExtraOption.here ⟨"header".toList, "X,optional".toList⟩
    ⟨by decide, by decide⟩ (by decide)
    (.between ['X'] " options=a|b ".toList "optional".toList (by decide)) []
  -- the three characters and the entry in front of the header tag
  have hbefore := hheader.behindCharacter (c := ' ') ((TagEntry.ofHead?_eq_none_iff _).mp (by decide))
    |>.behindEntry ⟨"form".toList, ['q']⟩ ⟨by decide, by decide⟩
    |>.behindCharacter (c := ' ') ((TagEntry.ofHead?_eq_none_iff _).mp (by decide))
    |>.behindCharacter (c := 'q') ((TagEntry.ofHead?_eq_none_iff _).mp (by decide))
  have htext : TagEntry.ExtraOption "q form:\"q\" header:\"X,optional\"".toList
      "q form:\"q\" header:\"X, options=a|b ,optional\"".toList := hbefore
  have hroute := Route.ExtraOption.intro
    (search "q form:\"q\" header:\"X,optional\"").service.groups[0].routes[0] rfl
    (.intro "Search" [] (.intro ⟨"Query", "string", _, ""⟩ htext) [])
  have hservice := Service.ExtraOption.intro "shop"
    (.intro [] (RouteGroup.ExtraOption.intro ⟨.empty⟩ (.intro [] hroute [])) [])
  have h : ExtraOption (search "q form:\"q\" header:\"X,optional\"")
      (search "q form:\"q\" header:\"X, options=a|b ,optional\"") :=
    .requested ⟨.empty⟩ hservice []
  exact (document_eq_iff_of_extraOption h).1.mpr fun hrepeat => hrepeat.types_ne_nil rfl

/-- A description with one type, whose two members have json tags of one name. -/
def page (tag : String) : Api where
  info := ⟨.empty⟩
  service := ⟨"shop", []⟩
  types := [⟨"Page", [⟨"Width", "int", "json:\"size\"", ""⟩, ⟨"Height", "int", tag, ""⟩]⟩]

/-- The second of two members of one name requires it again without an option, and not with one. -/
theorem not_forall_document_eq_of_extraOption :
    ¬ ∀ api other : Api, api.ExtraOption other → other.document = api.document := by
  intro hall
  have htext : TagEntry.ExtraOption "json:\"size\"".toList "json:\"size,options=a|b\"".toList :=
    .here ⟨"json".toList, "size".toList⟩ ⟨by decide, by decide⟩ (by decide)
      (.last "size".toList "options=a|b".toList (by decide)) []
  have h : ExtraOption (page "json:\"size\"") (page "json:\"size,options=a|b\"") :=
    .declared ⟨.empty⟩ ⟨"shop", []⟩ [] (.intro "Page" [⟨"Width", "int", "json:\"size\"", ""⟩]
      (.intro ⟨"Height", "int", "json:\"size\"", ""⟩ htext) []) []
  have hsame := congrArg (fun d : Document => (d.definitions.get? "Page").map (·.required))
    (hall _ _ h)
  have hrequired : ((page "json:\"size\"").document.definitions.get? "Page").map (·.required) =
      some ["size", "size"] := by decide
  have hother : ((page "json:\"size,options=a|b\"").document.definitions.get? "Page").map (·.required) =
      some ["size"] := by decide
  exact absurd (hother.symm.trans (hsame.trans hrequired)) (by decide)

end Api

end SwaggerGen
