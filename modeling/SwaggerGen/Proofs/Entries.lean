import Mathlib.Data.List.Induction
import Mathlib.Data.List.Nodup
import SwaggerGen.SortedMap

/-!
# Entries and their keys

What is looked up among entries with distinct keys is the value of the entry, and something is found
for exactly the keys.
-/

namespace SwaggerGen

section Lookup

variable {α : Type} (entries : List (String × α))

theorem isSome_lookup_iff (key : String) :
    (entries.lookup key).isSome ↔ key ∈ entries.map Prod.fst := by
  rw [List.lookup_isSome_iff, List.mem_map]
  constructor
  · rintro ⟨entry, hmem, heq⟩
    exact ⟨entry, hmem, (beq_iff_eq.mp heq).symm⟩
  · rintro ⟨entry, hmem, rfl⟩
    exact ⟨entry, hmem, beq_self_eq_true _⟩

theorem lookup_eq_some_of_mem (hnodup : (entries.map Prod.fst).Nodup) {entry : String × α}
    (h : entry ∈ entries) : entries.lookup entry.1 = some entry.2 := by
  obtain ⟨before, after, hsplit⟩ := List.append_of_mem h
  rw [hsplit, List.map_append, List.map_cons, List.nodup_append] at hnodup
  apply List.lookup_eq_some_iff.mpr
  refine ⟨before, after, hsplit, fun other hother => ?_⟩
  have hne := hnodup.2.2 other.1 (List.mem_map_of_mem hother) entry.1 List.mem_cons_self
  simpa using hne.symm

/-- Among entries with distinct keys, those of a key are the one that is looked up. -/
theorem map_filter_eq_toList_lookup (hnodup : (entries.map Prod.fst).Nodup) (key : String) :
    (entries.filter (·.1 = key)).map Prod.snd = (entries.lookup key).toList := by
  induction entries with
  | nil => rfl
  | cons entry rest ih =>
      obtain ⟨k, value⟩ := entry
      rw [List.map_cons, List.nodup_cons] at hnodup
      rw [SortedMap.lookup_cons_eq_ite]
      by_cases h : key = k
      · have hnone : rest.lookup k = none := by
          rw [← Option.not_isSome_iff_eq_none, isSome_lookup_iff]
          exact hnodup.1
        have ih := ih hnodup.2
        rw [h, hnone] at ih
        rw [if_pos h, List.filter_cons_of_pos (by simp [h]), h, List.map_cons, ih]
        rfl
      · rw [if_neg h, List.filter_cons_of_neg (by simpa using Ne.symm h), ih hnodup.2]

end Lookup

namespace SortedMap

variable {α : Type} (m : SortedMap α)

theorem nodup_keys : m.keys.Nodup := by
  rw [keys, List.nodup_iff_pairwise_ne, List.pairwise_map]
  refine m.sorted.imp fun {a b} hlt => ?_
  exact fun heq => String.lt_irrefl b.1 (heq ▸ hlt)

theorem isSome_get?_iff (key : String) : (m.get? key).isSome ↔ key ∈ m.keys :=
  isSome_lookup_iff m.toList key

theorem get?_eq_some_of_mem {entry : String × α} (h : entry ∈ m.toList) :
    m.get? entry.1 = some entry.2 :=
  lookup_eq_some_of_mem m.toList m.nodup_keys h

theorem mem_toList_iff (entry : String × α) : entry ∈ m.toList ↔ m.get? entry.1 = some entry.2 := by
  refine ⟨m.get?_eq_some_of_mem, fun h => ?_⟩
  obtain ⟨before, after, hsplit, -⟩ := List.lookup_eq_some_iff.mp h
  rw [hsplit]
  exact List.mem_append_right _ List.mem_cons_self

/-- Maps with the same values under all keys are equal. -/
theorem ext_get? {m n : SortedMap α} (h : ∀ key, m.get? key = n.get? key) : m = n := by
  have hmem : ∀ entry, entry ∈ m.toList ↔ entry ∈ n.toList := fun entry => by
    rw [mem_toList_iff, mem_toList_iff, h]
  have hperm : m.toList.Perm n.toList :=
    (List.perm_ext_iff_of_nodup (List.Nodup.of_map _ m.nodup_keys)
      (List.Nodup.of_map _ n.nodup_keys)).mpr hmem
  refine ext (hperm.eq_of_pairwise (fun a b _ _ hab hba => ?_) m.sorted n.sorted)
  exact absurd (String.lt_trans hab hba) (String.lt_irrefl _)

theorem ofList_concat (entries : List (String × α)) (entry : String × α) :
    ofList (entries ++ [entry]) = (ofList entries).insert entry.1 entry.2 := by
  rw [ofList, List.foldl_append]
  rfl

/-- The last entry of a key counts. -/
theorem get?_ofList (entries : List (String × α)) (key : String) :
    (ofList entries).get? key = ((entries.filter (·.1 = key)).map Prod.snd).getLast? := by
  induction entries using List.reverseRecOn with
  | nil => rfl
  | append_singleton entries entry ih =>
      rw [ofList_concat, get?_insert, List.filter_append, List.map_append, List.getLast?_append, ih]
      by_cases h : key = entry.1
      · simp [h]
      · simp [h, Ne.symm h]

theorem ofList_toList : ofList m.toList = m := by
  refine ext_get? fun key => ?_
  rw [get?_ofList, map_filter_eq_toList_lookup m.toList m.nodup_keys, get?]
  cases m.toList.lookup key <;> rfl

theorem mem_keys_insert (key other : String) (value : α) :
    other ∈ (m.insert key value).keys ↔ other = key ∨ other ∈ m.keys := by
  rw [← isSome_get?_iff, ← isSome_get?_iff, get?_insert]
  by_cases h : other = key <;> simp [h]

end SortedMap

end SwaggerGen
