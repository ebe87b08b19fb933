import SwaggerGen.Document.PathMap
import SwaggerGen.Proofs.Entries

/-!
# Path maps by look-up

A path map is its list of paths together with the item of each path, and an item is what it holds
for each of the four methods.
-/

namespace SwaggerGen

theorem PathItem.ext_operation? (item other : PathItem)
    (h : ∀ method, item.operation? method = other.operation? method) : item = other := by
  obtain ⟨get, post, put, delete⟩ := item
  obtain ⟨get', post', put', delete'⟩ := other
  have hget : get = get' := h .get
  have hpost : post = post' := h .post
  have hput : put = put' := h .put
  have hdelete : delete = delete' := h .delete
  rw [hget, hpost, hput, hdelete]

namespace PathMap

variable (m n : PathMap) (path : String)

@[simp] theorem operation?_empty (method : Method) : empty.operation? path method = none := rfl

theorem get?_eq_some_of_mem {entry : String × PathItem} (h : entry ∈ m.toList) :
    m.get? entry.1 = some entry.2 :=
  lookup_eq_some_of_mem m.toList m.nodup h

/-- The entries are the paths with what is looked up for them. -/
theorem toList_eq_map_keys :
    m.toList = m.keys.map fun path => (path, (m.get? path).getD .empty) := by
  rw [keys, List.map_map]
  refine (List.map_id _).symm.trans (List.map_congr_left fun entry hmem => ?_)
  rw [Function.comp_apply, get?_eq_some_of_mem m hmem]
  rfl

/-- Maps with the same paths and the same operations are equal. -/
theorem ext_operation? (hkeys : m.keys = n.keys)
    (h : ∀ path method, m.operation? path method = n.operation? path method) : m = n := by
  have hitem : ∀ path, (m.get? path).getD .empty = (n.get? path).getD .empty := by
    intro path
    apply PathItem.ext_operation?
    intro method
    have hm := h path method
    rw [operation?, operation?] at hm
    cases hmp : m.get? path <;> cases hnp : n.get? path <;> simp_all
  apply ext
  rw [toList_eq_map_keys m, toList_eq_map_keys n, hkeys]
  exact List.map_congr_left fun path _ => by rw [hitem path]

end PathMap

end SwaggerGen
