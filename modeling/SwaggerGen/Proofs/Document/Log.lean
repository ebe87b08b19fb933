import SwaggerGen.Document.Event
import SwaggerGen.Proofs.PathMap.Filing

/-!
# The log and the document

A conversion files routes and definitions and reports on each of them at once. What is reported tells
the paths, the operations and the definitions of the document: of several reports on one of them, the
last counts.
-/

namespace SwaggerGen

theorem Method.name_injective : Function.Injective Method.name := by
  intro method other h
  cases method <;> cases other <;> first | rfl | exact absurd h (by decide)

def Schema.propertyCount (schema : Schema) : Nat := (schema.properties.map List.length).getD 0

namespace Event

/-- What a report says under a name. -/
def particular? (event : Event) (name : String) : Option String := event.particulars.lookup name

/-- Whether a report is on a route, with a method that an item has a place for or not. -/
def IsOnRoute (event : Event) : Prop :=
  event.message = "rendered route" ∨ event.message = "unsupported HTTP method, operation dropped"

/-- Whether a report is on an operation that is filed under a path and a method. -/
def RendersRoute (path : String) (method : Method) (event : Event) : Prop :=
  event.level = "DEBUG" ∧ event.message = "rendered route" ∧
    event.particular? "path" = some path ∧ event.particular? "method" = some method.name

/-- Whether a report is on a definition of a name. -/
def RendersDefinition (name : String) (event : Event) : Prop :=
  event.message = "rendered definition" ∧ event.particular? "definition" = some name

instance : DecidablePred IsOnRoute := fun event =>
  inferInstanceAs (Decidable (event.message = _ ∨ event.message = _))

instance (path : String) (method : Method) : DecidablePred (RendersRoute path method) := fun event =>
  inferInstanceAs (Decidable (event.level = _ ∧ event.message = _ ∧
    event.particular? "path" = some path ∧ event.particular? "method" = some method.name))

instance (name : String) : DecidablePred (RendersDefinition name) := fun event =>
  inferInstanceAs (Decidable (event.message = _ ∧ event.particular? "definition" = some name))

variable {path name : String} {method : Method}

theorem rendersRoute_iff (event : Event) :
    event.RendersRoute path method ↔ ∃ handler, event = .routeRendered path method handler := by
  constructor
  · rintro ⟨-, hmessage, hpath, hmethod⟩
    cases event with
    | routeRendered own ownMethod handler =>
        have hpath : own = path := Option.some.inj hpath
        have hmethod : ownMethod = method := Method.name_injective (Option.some.inj hmethod)
        exact ⟨handler, by rw [hpath, hmethod]⟩
    | methodUnsupported | referencesCollected | definitionRendered | documentBuilt =>
        exact absurd hmessage (by simp [message])
  · rintro ⟨handler, rfl⟩
    exact ⟨rfl, rfl, rfl, rfl⟩

theorem rendersDefinition_iff (event : Event) :
    event.RendersDefinition name ↔ ∃ properties, event = .definitionRendered name properties := by
  constructor
  · rintro ⟨hmessage, hname⟩
    cases event with
    | definitionRendered own properties =>
        have hname : own = name := Option.some.inj hname
        exact ⟨properties, by rw [hname]⟩
    | routeRendered | methodUnsupported | referencesCollected | documentBuilt =>
        exact absurd hmessage (by simp [message])
  · rintro ⟨properties, rfl⟩
    exact ⟨rfl, rfl⟩

theorem RendersRoute.isOnRoute {event : Event} (h : event.RendersRoute path method) :
    event.IsOnRoute := .inl h.2.1

end Event

namespace Route

variable (route : Route)

theorem particular?_event_path : route.event.particular? "path" = some route.template := by
  rw [event]
  split <;> rfl

theorem isOnRoute_event : route.event.IsOnRoute := by
  rw [event]
  split
  · exact .inl rfl
  · exact .inr rfl

theorem rendersRoute_event_iff (path : String) (method : Method) :
    route.event.RendersRoute path method ↔
      route.template = path ∧ Method.ofText? route.method = some method := by
  rw [Event.rendersRoute_iff, event]
  cases Method.ofText? route.method with
  | none => simp
  | some own => simp

theorem particular?_event_handler {path : String} {method : Method}
    (h : route.event.RendersRoute path method) :
    route.event.particular? "handler" = some route.handler := by
  obtain ⟨-, hmethod⟩ := (route.rendersRoute_event_iff path method).mp h
  rw [event, hmethod]
  rfl

theorem not_rendersDefinition_event (name : String) : ¬ route.event.RendersDefinition name := by
  rw [Event.rendersDefinition_iff, event]
  split <;> rintro ⟨properties, ⟨⟩⟩

end Route

theorem StructType.not_isOnRoute_event (type : StructType) : ¬ type.event.IsOnRoute := by
  rintro (h | h) <;> exact absurd h (by simp [event, Event.message])

section Log

variable (log : List Event) (event : Event)

/-- The paths that the reports on routes name. -/
def reportedPaths : List String := (log.filter (·.IsOnRoute)).filterMap (·.particular? "path")

/-- What the last report of a kind says under a name. -/
def lastParticular? (kind : Event → Prop) [DecidablePred kind] (name : String) : Option String :=
  (log.filter (kind ·)).getLast?.bind (·.particular? name)

variable {log event}

theorem reportedPaths_concat_of_not (h : ¬ event.IsOnRoute) :
    reportedPaths (log ++ [event]) = reportedPaths log := by
  rw [reportedPaths, List.filter_append, List.filter_cons_of_neg (by simpa using h), List.filter_nil,
    List.append_nil, ← reportedPaths]

theorem reportedPaths_concat {path : String} (h : event.IsOnRoute)
    (hpath : event.particular? "path" = some path) :
    reportedPaths (log ++ [event]) = reportedPaths log ++ [path] := by
  rw [reportedPaths, List.filter_append, List.filter_cons_of_pos (by simpa using h), List.filter_nil,
    List.filterMap_append, ← reportedPaths]
  simp [hpath]

variable {kind : Event → Prop} [DecidablePred kind] {name : String}

theorem lastParticular?_concat (h : kind event) :
    lastParticular? (log ++ [event]) kind name = event.particular? name := by
  simp [lastParticular?, h]

theorem lastParticular?_concat_of_not (h : ¬ kind event) :
    lastParticular? (log ++ [event]) kind name = lastParticular? log kind name := by
  simp [lastParticular?, h]

theorem isSome_lastParticular?_iff
    (hkind : ∀ event, kind event → (event.particular? name).isSome) :
    (lastParticular? log kind name).isSome ↔ ∃ event ∈ log, kind event := by
  constructor
  · intro h
    rw [lastParticular?] at h
    cases hlast : (log.filter (kind ·)).getLast? with
    | none => simp [hlast] at h
    | some last =>
        obtain ⟨hmem, hlast⟩ := List.mem_filter.mp (List.mem_of_getLast? hlast)
        exact ⟨last, hmem, of_decide_eq_true hlast⟩
  · rintro ⟨event, hmem, hevent⟩
    have hne : log.filter (kind ·) ≠ [] :=
      List.ne_nil_of_mem (List.mem_filter.mpr ⟨hmem, decide_eq_true hevent⟩)
    obtain ⟨-, hlast⟩ := List.mem_filter.mp (List.getLast_mem hne)
    rw [lastParticular?, List.getLast?_eq_some_getLast hne, Option.bind_some]
    exact hkind _ (of_decide_eq_true hlast)

end Log

/-- A conversion on its way: what it has filed so far, and what it has reported. -/
structure Conversion where
  paths : PathMap
  references : SortedMap Unit
  definitions : Definitions
  log : List Event

namespace Conversion

def start : Conversion := ⟨.empty, .empty, .empty, []⟩

def addRoute (service : Service) (c : Conversion) (found : RouteGroup × Route) : Conversion where
  paths := c.paths.addRoute service found
  references := found.2.references.foldl (fun m reference => m.insert reference ()) c.references
  definitions := c.definitions
  log := c.log ++ [found.2.event]

def addType (c : Conversion) (type : StructType) : Conversion :=
  { c with definitions := c.definitions.add type, log := c.log ++ [type.event] }

def report (c : Conversion) (event : Event) : Conversion := { c with log := c.log ++ [event] }

/-- The conversion of a description once its routes are filed. -/
def routed (api : Api) : Conversion :=
  let routed := api.service.discovered.foldl (addRoute api.service) start
  routed.report (.referencesCollected routed.references.keys)

def ofApi (api : Api) : Conversion :=
  let rendered := api.types.foldl addType (routed api)
  rendered.report (.documentBuilt api.service.name rendered.paths.size rendered.definitions.size)

theorem foldl_addRoute (service : Service) (c : Conversion) (found : List (RouteGroup × Route)) :
    found.foldl (addRoute service) c =
      { paths := found.foldl (PathMap.addRoute service) c.paths
        references := (found.flatMap (·.2.references)).foldl (fun m reference => m.insert reference ())
          c.references
        definitions := c.definitions
        log := c.log ++ found.map (·.2.event) } := by
  induction found generalizing c with
  | nil => simp
  | cons first rest ih =>
      rw [List.foldl_cons, ih]
      simp [addRoute]

theorem foldl_addType (c : Conversion) (types : List StructType) :
    types.foldl addType c =
      { c with
        definitions := c.definitions.addAll types
        log := c.log ++ types.map StructType.event } := by
  induction types generalizing c with
  | nil => simp [Definitions.addAll]
  | cons first rest ih =>
      rw [List.foldl_cons, ih]
      simp [addType, Definitions.addAll]

theorem operation?_addRoute (service : Service) (c : Conversion) (found : RouteGroup × Route)
    (path : String) (method : Method) :
    (c.addRoute service found).paths.operation? path method =
      if Filing.fills path method ⟨service, found.1, found.2⟩ then
        some (found.2.operation service found.1)
      else c.paths.operation? path method :=
  PathMap.operation?_file c.paths ⟨service, found.1, found.2⟩ path method

/-- A conversion ends with the document and its log. -/
theorem ofApi_eq (api : Api) :
    (ofApi api).paths = api.document.paths ∧ (ofApi api).definitions = api.document.definitions ∧
      (ofApi api).log = api.events := by
  have hreferences : ((api.service.discovered.flatMap (·.2.references)).foldl
      (fun m reference => m.insert reference ()) SortedMap.empty).keys = api.service.referenced := by
    rw [Service.referenced, SortedMap.ofList, List.foldl_map]
  rw [ofApi, foldl_addType, routed, foldl_addRoute]
  refine ⟨rfl, rfl, ?_⟩
  simp only [report, start, hreferences, Api.events]
  rfl

/-- Whether the log of a conversion tells the paths, the operations and the definitions so far. -/
structure Told (c : Conversion) : Prop where
  keys_eq : c.paths.keys = (reportedPaths c.log).eraseDups
  operationId_eq : ∀ path method, (c.paths.operation? path method).map (·.operationId) =
    lastParticular? c.log (Event.RendersRoute path method) "handler"
  propertyCount_eq : ∀ name, (c.definitions.get? name).map (toString ·.propertyCount) =
    lastParticular? c.log (Event.RendersDefinition name) "properties"

theorem told_start : start.Told where
  keys_eq := rfl
  operationId_eq _ _ := rfl
  propertyCount_eq _ := rfl

variable {c : Conversion}

theorem Told.report (h : c.Told) {event : Event} (hroute : ¬ event.IsOnRoute)
    (hdefinition : ∀ name, ¬ event.RendersDefinition name) : (c.report event).Told where
  keys_eq := by
    rw [Conversion.report, reportedPaths_concat_of_not hroute]
    exact h.keys_eq
  operationId_eq path method := by
    rw [Conversion.report, lastParticular?_concat_of_not fun hrenders => hroute hrenders.isOnRoute]
    exact h.operationId_eq path method
  propertyCount_eq name := by
    rw [Conversion.report, lastParticular?_concat_of_not (hdefinition name)]
    exact h.propertyCount_eq name

theorem Told.addRoute (h : c.Told) (service : Service) (found : RouteGroup × Route) :
    (c.addRoute service found).Told where
  keys_eq := by
    have hkeys : (c.addRoute service found).paths.keys =
        if found.2.template ∈ c.paths.keys then c.paths.keys
        else c.paths.keys ++ [found.2.template] :=
      PathMap.keys_file c.paths ⟨service, found.1, found.2⟩
    rw [hkeys, Conversion.addRoute,
      reportedPaths_concat found.2.isOnRoute_event found.2.particular?_event_path,
      ← PathMap.newPaths_nil_left, PathMap.newPaths_concat, List.nil_append,
      PathMap.newPaths_nil_left, ← h.keys_eq]
  operationId_eq path method := by
    have hfills : Filing.fills path method ⟨service, found.1, found.2⟩ ↔
        found.2.event.RendersRoute path method := by
      rw [Filing.fills_iff, Route.rendersRoute_event_iff]
      rfl
    rw [operation?_addRoute]
    by_cases hrenders : found.2.event.RendersRoute path method
    · rw [if_pos (hfills.mpr hrenders), Conversion.addRoute, lastParticular?_concat hrenders,
        found.2.particular?_event_handler hrenders]
      rfl
    · rw [if_neg (mt hfills.mp hrenders), Conversion.addRoute,
        lastParticular?_concat_of_not hrenders]
      exact h.operationId_eq path method
  propertyCount_eq name := by
    rw [Conversion.addRoute, lastParticular?_concat_of_not (found.2.not_rendersDefinition_event name)]
    exact h.propertyCount_eq name

theorem Told.addType (h : c.Told) (type : StructType) : (c.addType type).Told where
  keys_eq := by
    rw [Conversion.addType, reportedPaths_concat_of_not type.not_isOnRoute_event]
    exact h.keys_eq
  operationId_eq path method := by
    rw [Conversion.addType, lastParticular?_concat_of_not
      fun hrenders => type.not_isOnRoute_event hrenders.isOnRoute]
    exact h.operationId_eq path method
  propertyCount_eq name := by
    rw [Conversion.addType, Definitions.add, SortedMap.get?_insert]
    by_cases hname : type.name = name
    · have hrenders : type.event.RendersDefinition name := ⟨rfl, congrArg some hname⟩
      rw [lastParticular?_concat hrenders, if_pos hname.symm]
      rfl
    · have hother : ¬ type.event.RendersDefinition name := by
        rintro ⟨-, heq⟩
        exact hname (Option.some.inj heq)
      rw [lastParticular?_concat_of_not hother, if_neg (Ne.symm hname)]
      exact h.propertyCount_eq name

theorem told_ofApi (api : Api) : (ofApi api).Told := by
  have hrouted := List.foldlRecOn api.service.discovered (addRoute api.service) told_start
    fun c h found _ => h.addRoute api.service found
  have hcollected : (routed api).Told := by
    apply hrouted.report
    · simp [Event.IsOnRoute, Event.message]
    · simp [Event.RendersDefinition, Event.message]
  have hrendered := List.foldlRecOn api.types addType hcollected fun c h type _ => h.addType type
  apply hrendered.report
  · simp [Event.IsOnRoute, Event.message]
  · simp [Event.RendersDefinition, Event.message]

end Conversion

namespace Api

/-- Whether a log reports on a description in order, and tells a document: its paths as the routes name
them first, each operation by the last route for it, and each definition by the last type of its name. -/
structure LogTells (api : Api) (log : List Event) (document : Document) : Prop where
  order : log = api.service.discovered.map (·.2.event) ++
    [.referencesCollected api.service.referenced] ++ api.types.map StructType.event ++
    [.documentBuilt api.service.name document.paths.size document.definitions.size]
  keys_eq : document.paths.keys = (reportedPaths log).eraseDups
  isSome_operation?_iff : ∀ path method, (document.paths.operation? path method).isSome ↔
    ∃ event ∈ log, event.RendersRoute path method
  operationId_eq : ∀ path method, (document.paths.operation? path method).map (·.operationId) =
    lastParticular? log (Event.RendersRoute path method) "handler"
  mem_keys_iff : ∀ name, name ∈ document.definitions.keys ↔
    ∃ event ∈ log, event.RendersDefinition name
  propertyCount_eq : ∀ name, (document.definitions.get? name).map (toString ·.propertyCount) =
    lastParticular? log (Event.RendersDefinition name) "properties"

/-- One pass over a description gives its document and its log, and the log tells the document. -/
theorem events_tell_document (api : Api) :
    (Conversion.ofApi api).paths = api.document.paths ∧
      (Conversion.ofApi api).definitions = api.document.definitions ∧
      (Conversion.ofApi api).log = api.events ∧ api.LogTells api.events api.document := by
  obtain ⟨hpaths, hdefinitions, hlog⟩ := Conversion.ofApi_eq api
  have htold := Conversion.told_ofApi api
  refine ⟨hpaths, hdefinitions, hlog, ?_⟩
  have hoperation := htold.operationId_eq
  have hdefinition := htold.propertyCount_eq
  rw [hlog] at hoperation hdefinition
  rw [hpaths] at hoperation
  rw [hdefinitions] at hdefinition
  exact {
    order := rfl
    keys_eq := by
      rw [← hpaths, ← hlog]
      exact htold.keys_eq
    isSome_operation?_iff := by
      intro path method
      rw [← Option.isSome_map, hoperation, isSome_lastParticular?_iff]
      intro event hrenders
      obtain ⟨handler, rfl⟩ := (Event.rendersRoute_iff event).mp hrenders
      rfl
    operationId_eq := hoperation
    mem_keys_iff := by
      intro name
      rw [← SortedMap.isSome_get?_iff, ← Option.isSome_map, hdefinition, isSome_lastParticular?_iff]
      intro event hrenders
      obtain ⟨properties, rfl⟩ := (Event.rendersDefinition_iff event).mp hrenders
      rfl
    propertyCount_eq := hdefinition }

end Api

end SwaggerGen
