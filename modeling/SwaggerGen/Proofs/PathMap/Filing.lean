import Mathlib.Data.List.Induction
import SwaggerGen.Proofs.PathMap.Lookup

/-!
# Filing routes

Services put their routes into one path map, one call after another. The map then has its old paths
and behind them the new templates as they were first found; a slot holds the operation of the last
route for it, or what it held before; and what no route is filed under stays as it was.
-/

namespace SwaggerGen

/-- A route on its way into a path map, with the group and the service it belongs to. -/
structure Filing where
  service : Service
  group : RouteGroup
  route : Route

namespace Filing

def path (f : Filing) : String := f.route.template

def method? (f : Filing) : Option Method := Method.ofText? f.route.method

def operation (f : Filing) : Operation := f.route.operation f.service f.group

/-- Whether the route is one for a slot. -/
def fills (path : String) (method : Method) (f : Filing) : Bool :=
  f.path == path && f.method? == some method

@[simp] theorem fills_iff (path : String) (method : Method) (f : Filing) :
    f.fills path method ↔ f.path = path ∧ f.method? = some method := by
  simp [fills]

/-- The item of the route's path once the route is filed. -/
def change (f : Filing) (item : PathItem) : PathItem :=
  match f.method? with
  | some method => item.assign method f.operation
  | none => item

theorem operation?_change (f : Filing) (item : PathItem) (method : Method) :
    (f.change item).operation? method =
      if f.method? = some method then some f.operation else item.operation? method := by
  rw [change]
  cases f.method? with
  | none => simp
  | some own =>
      rw [PathItem.operation?_assign]
      by_cases h : method = own <;> simp [h, eq_comm]

end Filing

def Service.filings (service : Service) : List Filing :=
  service.groups.flatMap fun group => group.routes.map (⟨service, group, ·⟩)

namespace PathMap

def file (m : PathMap) (f : Filing) : PathMap := m.addRoute f.service (f.group, f.route)

def fileAll (m : PathMap) (filings : List Filing) : PathMap := filings.foldl file m

theorem fileAll_append (m : PathMap) (first second : List Filing) :
    m.fileAll (first ++ second) = (m.fileAll first).fileAll second :=
  List.foldl_append

theorem fileAll_concat (m : PathMap) (filings : List Filing) (f : Filing) :
    m.fileAll (filings ++ [f]) = (m.fileAll filings).file f := by
  rw [fileAll_append]
  rfl

theorem addService_eq_fileAll (m : PathMap) (service : Service) :
    m.addService service = m.fileAll service.filings := by
  have hfilings : service.filings =
      service.discovered.map fun found => ⟨service, found.1, found.2⟩ := by
    rw [Service.filings, Service.discovered, List.map_flatMap]
    simp only [List.map_map, Function.comp_def]
  rw [hfilings, fileAll, List.foldl_map]
  rfl

theorem foldl_addService_eq_fileAll (m : PathMap) (services : List Service) :
    services.foldl addService m = m.fileAll (services.flatMap Service.filings) := by
  induction services generalizing m with
  | nil => rfl
  | cons service rest ih =>
      rw [List.foldl_cons, ih, addService_eq_fileAll, List.flatMap_cons, fileAll_append]

theorem file_eq_update (m : PathMap) (f : Filing) : m.file f = m.update f.path f.change := rfl

theorem keys_file (m : PathMap) (f : Filing) :
    (m.file f).keys = if f.path ∈ m.keys then m.keys else m.keys ++ [f.path] := by
  rw [file_eq_update, keys_update]

theorem get?_file_of_ne (m : PathMap) (f : Filing) (path : String) (h : f.path ≠ path) :
    (m.file f).get? path = m.get? path := by
  rw [file_eq_update, get?_update, if_neg h.symm]

theorem get?_file_path (m : PathMap) (f : Filing) :
    (m.file f).get? f.path = some (f.change ((m.get? f.path).getD .empty)) := by
  rw [file_eq_update, get?_update, if_pos rfl]

theorem operation?_file (m : PathMap) (f : Filing) (path : String) (method : Method) :
    (m.file f).operation? path method =
      if f.fills path method then some f.operation else m.operation? path method := by
  by_cases hpath : f.path = path
  · subst hpath
    have hold : ((m.get? f.path).getD .empty).operation? method = m.operation? f.path method := by
      rw [operation?]
      cases m.get? f.path <;> simp
    rw [operation?, get?_file_path, Option.bind_some, Filing.operation?_change, hold]
    simp
  · rw [operation?, get?_file_of_ne m f path hpath, ← operation?]
    simp [hpath]

/-- The paths that are not among old ones, each as it first occurs. -/
def newPaths (old paths : List String) : List String := (paths.filter (· ∉ old)).eraseDups

@[simp] theorem newPaths_nil (old : List String) : newPaths old [] = [] := rfl

theorem newPaths_nil_left (paths : List String) : newPaths [] paths = paths.eraseDups := by
  simp [newPaths]

theorem mem_newPaths_iff (old paths : List String) (path : String) :
    path ∈ newPaths old paths ↔ path ∈ paths ∧ path ∉ old := by
  simp [newPaths]

theorem newPaths_concat (old paths : List String) (path : String) :
    newPaths old (paths ++ [path]) =
      if path ∈ old ++ newPaths old paths then newPaths old paths
      else newPaths old paths ++ [path] := by
  rw [newPaths, List.filter_append, List.eraseDups_append, ← newPaths]
  by_cases hold : path ∈ old
  · rw [if_pos (List.mem_append_left _ hold)]
    simp [hold, List.removeAll]
  · by_cases hnew : path ∈ newPaths old paths
    · rw [if_pos (List.mem_append_right _ hnew)]
      have hpaths := ((mem_newPaths_iff old paths path).mp hnew).1
      simp [hold, hpaths, List.removeAll]
    · rw [if_neg (by simp [hold, hnew])]
      have hpaths : path ∉ paths := fun h => hnew ((mem_newPaths_iff old paths path).mpr ⟨h, hold⟩)
      simp [hold, hpaths, List.removeAll, List.eraseDups_cons]

/-- What a path map is after routes were filed in it. -/
structure Filed (before : PathMap) (filings : List Filing) (after : PathMap) : Prop where
  keys_eq : after.keys = before.keys ++ newPaths before.keys (filings.map Filing.path)
  operation?_eq : ∀ path method, after.operation? path method =
    match (filings.filter (Filing.fills path method)).getLast? with
    | some f => some f.operation
    | none => before.operation? path method
  get?_eq : ∀ path, (∀ f ∈ filings, f.path ≠ path) → after.get? path = before.get? path

theorem Filed.nil (before : PathMap) : Filed before [] before where
  keys_eq := by simp
  operation?_eq _ _ := rfl
  get?_eq _ _ := rfl

theorem Filed.file {before after : PathMap} {filings : List Filing} (h : Filed before filings after)
    (f : Filing) : Filed before (filings ++ [f]) (after.file f) where
  keys_eq := by
    rw [keys_file, h.keys_eq, List.map_append, List.map_singleton, newPaths_concat]
    split
    · rfl
    · rw [List.append_assoc]
  operation?_eq path method := by
    rw [operation?_file, List.filter_append, List.getLast?_append]
    cases hfills : f.fills path method
    · simpa [hfills] using h.operation?_eq path method
    · simp [hfills]
  get?_eq path hpath := by
    rw [get?_file_of_ne after f path (hpath f (by simp))]
    exact h.get?_eq path fun other hother => hpath other (List.mem_append_left _ hother)

theorem filed_fileAll (before : PathMap) (filings : List Filing) :
    Filed before filings (before.fileAll filings) := by
  induction filings using List.reverseRecOn with
  | nil => exact .nil before
  | append_singleton filings f ih =>
      rw [fileAll_concat]
      exact ih.file f

/-- An operation that routes leave in an empty path map is that of the last route for it. -/
theorem getLast?_fills_of_operation? {filings : List Filing} {path : String} {method : Method}
    {op : Operation} (h : (empty.fileAll filings).operation? path method = some op) :
    ∃ f, (filings.filter (Filing.fills path method)).getLast? = some f ∧ op = f.operation := by
  rw [(filed_fileAll empty filings).operation?_eq] at h
  split at h
  · next f hlast => exact ⟨f, hlast, (Option.some.inj h).symm⟩
  · exact absurd h (by simp)

theorem Filed.unique {before after other : PathMap} {filings : List Filing}
    (h : Filed before filings after) (hother : Filed before filings other) : after = other := by
  apply ext_operation?
  · rw [h.keys_eq, hother.keys_eq]
  · intro path method
    rw [h.operation?_eq, hother.operation?_eq]

end PathMap

end SwaggerGen
