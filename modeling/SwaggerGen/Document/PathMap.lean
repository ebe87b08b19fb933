import SwaggerGen.Operation.PathItem
import SwaggerGen.Operation.Route

/-!
# Path maps

Path items by their paths, in the order in which the paths were first found. A route is filed under its
template; routes of one template share an item, and a route whose method has no place in an item leaves
it as it is.
-/

namespace SwaggerGen

structure PathMap where
  toList : List (String × PathItem)
  nodup : (toList.map Prod.fst).Nodup

namespace PathMap

@[ext] theorem ext {m n : PathMap} (h : m.toList = n.toList) : m = n := by
  cases m; cases n; cases h; rfl

def empty : PathMap := ⟨[], by simp⟩

instance : Inhabited PathMap := ⟨empty⟩

def keys (m : PathMap) : List String := m.toList.map Prod.fst

def get? (m : PathMap) (path : String) : Option PathItem := m.toList.lookup path

def operation? (m : PathMap) (path : String) (method : Method) : Option Operation :=
  (m.get? path).bind (·.operation? method)

def size (m : PathMap) : Nat := m.toList.length

/-- Changes the item of a path among others; a new path comes last, with a changed empty item. -/
def updateEntry (path : String) (change : PathItem → PathItem) :
    List (String × PathItem) → List (String × PathItem)
  | [] => [(path, change .empty)]
  | (p, item) :: rest =>
      if p = path then (p, change item) :: rest else (p, item) :: updateEntry path change rest

theorem keys_updateEntry (path : String) (change : PathItem → PathItem)
    (entries : List (String × PathItem)) :
    (updateEntry path change entries).map Prod.fst =
      if path ∈ entries.map Prod.fst then entries.map Prod.fst
      else entries.map Prod.fst ++ [path] := by
  induction entries with
  | nil => simp [updateEntry]
  | cons head rest ih =>
      obtain ⟨p, item⟩ := head
      by_cases h : p = path
      · simp [updateEntry, h]
      · have hne : path ≠ p := fun hp => h hp.symm
        by_cases hm : path ∈ rest.map Prod.fst
        · rw [if_pos hm] at ih
          rw [updateEntry, if_neg h, if_pos (by simp [hm])]
          simp [ih]
        · rw [if_neg hm] at ih
          rw [updateEntry, if_neg h, if_neg (by simp [hm, hne])]
          simp [ih]

/-- The map in which the item of a path is changed; a new path gets a changed empty item. -/
def update (m : PathMap) (path : String) (change : PathItem → PathItem) : PathMap where
  toList := updateEntry path change m.toList
  nodup := by
    rw [keys_updateEntry]
    split
    · exact m.nodup
    · next h =>
        refine List.nodup_append.mpr ⟨m.nodup, by simp, ?_⟩
        rintro a ha b hb rfl
        exact h (List.mem_singleton.mp hb ▸ ha)

theorem keys_update (m : PathMap) (path : String) (change : PathItem → PathItem) :
    (m.update path change).keys = if path ∈ m.keys then m.keys else m.keys ++ [path] :=
  keys_updateEntry path change m.toList

theorem get?_update (m : PathMap) (path other : String) (change : PathItem → PathItem) :
    (m.update path change).get? other =
      if other = path then some (change ((m.get? path).getD .empty)) else m.get? other := by
  obtain ⟨entries, nodup⟩ := m
  simp only [get?, update]
  clear nodup
  induction entries with
  | nil => simp [updateEntry, SortedMap.lookup_cons_eq_ite]
  | cons head rest ih =>
      obtain ⟨p, item⟩ := head
      by_cases h : p = path
      · subst h
        by_cases ho : other = p <;> simp [updateEntry, SortedMap.lookup_cons_eq_ite, ho]
      · rw [updateEntry, if_neg h]
        by_cases ho : other = p
        · have hne : other ≠ path := fun hp => h (ho ▸ hp)
          simp [ho, h]
        · have hne : path ≠ p := fun hp => h hp.symm
          simp [SortedMap.lookup_cons_eq_ite, ho, hne, ih]

def addRoute (service : Service) (m : PathMap) (found : RouteGroup × Route) : PathMap :=
  m.update found.2.template fun item =>
    match Method.ofText? found.2.method with
    | some method => item.assign method (found.2.operation service found.1)
    | none => item

/-- Files the routes of a service in the order they are found. -/
def addService (m : PathMap) (service : Service) : PathMap :=
  service.discovered.foldl (addRoute service) m

def toJson (m : PathMap) : Json := .object (m.toList.map fun entry => (entry.1, entry.2.toJson))

end PathMap

/-- The references in the parameters of a route that are not empty. -/
def Route.references (route : Route) : List String :=
  (route.parameters.filterMap fun p => p.schema.bind (·.ref)).filter (· ≠ "")

/-- The definitions that the parameters of a service refer to, in increasing order. -/
def Service.referenced (service : Service) : List String :=
  (SortedMap.ofList ((service.discovered.flatMap (·.2.references)).map (·, ()))).keys

end SwaggerGen
