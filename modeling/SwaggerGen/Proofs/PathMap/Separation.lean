import SwaggerGen.Proofs.PathMap.Filing
import SwaggerGen.Proofs.PathTemplate.Unbraced

/-!
# Items of different paths

The item of a path depends on the routes of its template alone. Paths without braces have templates of
their own, so the item of one is what it would be without the routes of any other.
-/

namespace SwaggerGen

/-- What a route does to a path map: the path, and the change of its item. -/
def Filing.entry (f : Filing) : String × (PathItem → PathItem) := (f.path, f.change)

namespace Service

/-- The service without its routes of one path. -/
def withoutPath (path : String) (service : Service) : Service :=
  { service with
    groups := service.groups.map fun group =>
      { group with routes := group.routes.filter (·.path ≠ path) } }

theorem map_entry_filings_withoutPath (path : String) (service : Service) :
    (service.withoutPath path).filings.map Filing.entry =
      (service.filings.filter (·.route.path ≠ path)).map Filing.entry := by
  simp only [filings, withoutPath, List.flatMap_map, List.map_flatMap, List.filter_flatMap,
    List.filter_map, List.map_map, Function.comp_def]
  rfl

end Service

namespace PathMap

theorem fileAll_eq_foldl_update (m : PathMap) (filings : List Filing) :
    m.fileAll filings =
      (filings.map Filing.entry).foldl (fun m entry => m.update entry.1 entry.2) m := by
  rw [List.foldl_map]
  rfl

theorem fileAll_flatMap_withoutPath (m : PathMap) (path : String) (services : List Service) :
    m.fileAll ((services.map (Service.withoutPath path)).flatMap Service.filings) =
      m.fileAll ((services.flatMap Service.filings).filter (·.route.path ≠ path)) := by
  rw [fileAll_eq_foldl_update, fileAll_eq_foldl_update, List.flatMap_map, List.map_flatMap,
    List.filter_flatMap, List.map_flatMap]
  simp only [Service.map_entry_filings_withoutPath]

theorem get?_file_congr {m n : PathMap} {path : String} (h : m.get? path = n.get? path)
    (f : Filing) : (m.file f).get? path = (n.file f).get? path := by
  by_cases hpath : f.path = path
  · subst hpath
    rw [get?_file_path, get?_file_path, h]
  · rw [get?_file_of_ne m f path hpath, get?_file_of_ne n f path hpath, h]

/-- Routes of other templates can be left out. -/
theorem get?_fileAll_filter (m : PathMap) (filings : List Filing) (keep : Filing → Bool)
    (path : String) (h : ∀ f ∈ filings, keep f = false → f.path ≠ path) :
    (m.fileAll (filings.filter keep)).get? path = (m.fileAll filings).get? path := by
  induction filings using List.reverseRecOn with
  | nil => rfl
  | append_singleton filings f ih =>
      have ih := ih fun other hmem => h other (List.mem_append_left _ hmem)
      rw [List.filter_append, fileAll_append, fileAll_concat]
      cases hkeep : keep f with
      | true =>
          rw [List.filter_singleton, hkeep]
          exact get?_file_congr ih f
      | false =>
          rw [List.filter_singleton, hkeep, get?_file_of_ne _ f path (h f (by simp) hkeep)]
          exact ih

/-- A path without braces is what its template shows, so different ones have different templates;
in a path map the item of one is what it would be if no route had the other. -/
theorem braceFree_paths_apart :
    (∀ path : String, PathTemplate.BraceFree path.toList →
      PathTemplate.unbraced (PathTemplate.ofPath path).toList = path.toList) ∧
    ∀ p q : String, PathTemplate.BraceFree p.toList → PathTemplate.BraceFree q.toList → p ≠ q →
      PathTemplate.ofPath p ≠ PathTemplate.ofPath q ∧
      ∀ (m : PathMap) (services : List Service),
        ((services.map (Service.withoutPath q)).foldl addService m).get? (PathTemplate.ofPath p) =
          (services.foldl addService m).get? (PathTemplate.ofPath p) := by
  refine ⟨fun path h => PathTemplate.unbraced_ofPath h, fun p q hp hq hne => ?_⟩
  have hapart : PathTemplate.ofPath p ≠ PathTemplate.ofPath q :=
    fun h => hne (PathTemplate.eq_of_ofPath_eq hp hq h)
  refine ⟨hapart, fun m services => ?_⟩
  rw [foldl_addService_eq_fileAll, foldl_addService_eq_fileAll, fileAll_flatMap_withoutPath]
  apply get?_fileAll_filter
  intro f _ hdropped hpath
  have hq : f.route.path = q := by simpa using hdropped
  rw [← hq] at hapart
  exact hapart hpath.symm

theorem repeated_mark_paths_apart :
    PathTemplate.unbraced (PathTemplate.ofPath "/c:x/:x").toList = "/c:x/:x".toList ∧
      PathTemplate.ofPath "/c:x/:x" ≠ PathTemplate.ofPath "/:x/c:x" := by
  obtain ⟨hshown, hapart⟩ := braceFree_paths_apart
  exact ⟨hshown "/c:x/:x" (by decide),
    (hapart "/c:x/:x" "/:x/c:x" (by decide) (by decide) (by decide)).1⟩

end PathMap

end SwaggerGen
