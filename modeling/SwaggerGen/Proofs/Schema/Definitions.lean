import Mathlib.Data.List.Induction
import SwaggerGen.Proofs.Entries
import SwaggerGen.Schema.Definition

/-!
# Adding definitions

Definitions know exactly the names of the types that were added, and under each name the definition of
the last type that has it. This says what definitions are after any number of types.
-/

namespace SwaggerGen

namespace Definitions

variable (definitions : Definitions) (types : List StructType) (name : String)

theorem addAll_concat (type : StructType) :
    definitions.addAll (types ++ [type]) = (definitions.addAll types).add type := by
  rw [addAll, List.foldl_append]
  rfl

theorem mem_keys_addAll :
    name ∈ (definitions.addAll types).keys ↔
      (∃ type ∈ types, type.name = name) ∨ name ∈ definitions.keys := by
  induction types using List.reverseRecOn with
  | nil => simp [addAll]
  | append_singleton types type ih =>
      rw [addAll_concat, add, SortedMap.mem_keys_insert, ih]
      simp only [List.mem_append, List.mem_singleton, or_and_right, exists_or, exists_eq_left]
      rw [or_left_comm, or_assoc, eq_comm]

/-- A name stands for the definition of the last type that has it. -/
theorem get?_addAll :
    (definitions.addAll types).get? name =
      match (types.filter (·.name == name)).getLast? with
      | some type => some type.definition
      | none => definitions.get? name := by
  induction types using List.reverseRecOn with
  | nil => rfl
  | append_singleton types type ih =>
      rw [addAll_concat, add, SortedMap.get?_insert, List.filter_append, List.getLast?_append]
      by_cases h : type.name = name
      · simp [h]
      · simpa [h, Ne.symm h] using ih

theorem filter_name_eq_nil {types : List StructType} {name : String}
    (h : ∀ type ∈ types, type.name ≠ name) : types.filter (·.name == name) = [] := by
  rw [List.filter_eq_nil_iff]
  intro type htype
  simpa using h type htype

/-- What one of the types gives: its definition under its name, unless a later type has that name. -/
theorem get?_addAll_append_cons (type : StructType) (later : List StructType) :
    (definitions.addAll (types ++ type :: later)).get? name =
      if type.name = name ∧ ∀ other ∈ later, other.name ≠ name then some type.definition
      else (definitions.addAll (types ++ later)).get? name := by
  rw [get?_addAll, get?_addAll, List.filter_append, List.filter_append, List.getLast?_append,
    List.getLast?_append]
  by_cases hname : type.name = name
  · rw [List.filter_cons_of_pos (by simpa using hname), List.getLast?_cons]
    by_cases hlater : ∀ other ∈ later, other.name ≠ name
    · rw [if_pos ⟨hname, hlater⟩, filter_name_eq_nil hlater]
      rfl
    · have hsome : later.filter (·.name == name) ≠ [] := by
        intro hnil
        rw [List.filter_eq_nil_iff] at hnil
        exact hlater fun other hother => by simpa using hnil other hother
      obtain ⟨last, hlast⟩ := Option.ne_none_iff_exists'.mp (mt List.getLast?_eq_none_iff.mp hsome)
      rw [if_neg fun h => hlater h.2, hlast]
      rfl
  · rw [if_neg fun h => hname h.1, List.filter_cons_of_neg (by simpa using hname)]

theorem foldl_addAll_eq_addAll_flatten (calls : List (List StructType)) :
    calls.foldl addAll definitions = definitions.addAll calls.flatten :=
  List.foldl_flatten.symm

/-- An entry that is made of types alone is the definition of one of them, under its name. -/
theorem exists_type_of_mem_addAll {types : List StructType} {entry : String × Schema}
    (h : entry ∈ (Definitions.addAll .empty types).toList) :
    ∃ type ∈ types, entry = (type.name, type.definition) := by
  have hget := SortedMap.get?_eq_some_of_mem _ h
  rw [get?_addAll] at hget
  split at hget
  · next type hlast =>
      obtain ⟨htype, hname⟩ := List.mem_filter.mp (List.mem_of_getLast? hlast)
      refine ⟨type, htype, Prod.ext (beq_iff_eq.mp hname).symm ?_⟩
      exact (Option.some.inj hget).symm
  · exact absurd hget (by simp)

/-- What definitions are after types were added to them. -/
structure Added (before : Definitions) (types : List StructType) (after : Definitions) : Prop where
  mem_keys_iff : ∀ name, name ∈ after.keys ↔ name ∈ before.keys ∨ ∃ type ∈ types, type.name = name
  get?_last : ∀ earlier type later, types = earlier ++ type :: later →
    (∀ other ∈ later, other.name ≠ type.name) → after.get? type.name = some type.definition
  get?_other : ∀ name, (∀ type ∈ types, type.name ≠ name) → after.get? name = before.get? name

theorem added_addAll : Added definitions types (definitions.addAll types) where
  mem_keys_iff name := by rw [mem_keys_addAll, or_comm]
  get?_last := by
    rintro earlier type later rfl hlater
    rw [get?_addAll, List.filter_append, List.filter_cons_of_pos (by simp), filter_name_eq_nil hlater]
    simp
  get?_other := by
    intro name hname
    rw [get?_addAll, filter_name_eq_nil hname]
    rfl

theorem exists_last_of_exists {types : List StructType} {name : String}
    (h : ∃ type ∈ types, type.name = name) :
    ∃ earlier type later, types = earlier ++ type :: later ∧ type.name = name ∧
      ∀ other ∈ later, other.name ≠ name := by
  induction types with
  | nil => simp at h
  | cons first rest ih =>
      by_cases hrest : ∃ type ∈ rest, type.name = name
      · obtain ⟨earlier, type, later, rfl, hname, hlater⟩ := ih hrest
        exact ⟨first :: earlier, type, later, rfl, hname, hlater⟩
      · have hfirst : first.name = name := by
          obtain ⟨type, htype, hname⟩ := h
          rcases List.mem_cons.mp htype with rfl | htype
          · exact hname
          · exact absurd ⟨type, htype, hname⟩ hrest
        exact ⟨[], first, rest, rfl, hfirst, fun other hother heq => hrest ⟨other, hother, heq⟩⟩

theorem Added.unique {before after other : Definitions} {types : List StructType}
    (h : Added before types after) (hother : Added before types other) : after = other := by
  apply SortedMap.ext_get?
  intro name
  by_cases hname : ∃ type ∈ types, type.name = name
  · obtain ⟨earlier, type, later, hsplit, rfl, hlater⟩ := exists_last_of_exists hname
    rw [h.get?_last earlier type later hsplit hlater,
      hother.get?_last earlier type later hsplit hlater]
  · have hname : ∀ type ∈ types, type.name ≠ name := fun type htype heq => hname ⟨type, htype, heq⟩
    rw [h.get?_other name hname, hother.get?_other name hname]

theorem added_iff_eq_addAll {before after : Definitions} {types : List StructType} :
    Added before types after ↔ after = before.addAll types := by
  constructor
  · exact fun h => h.unique (added_addAll before types)
  · rintro rfl
    exact added_addAll before types

end Definitions

end SwaggerGen
