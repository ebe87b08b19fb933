import Mathlib.Data.List.Basic
import SwaggerGen.Schema.Definition

/-!
# Required names

A name is required if some tag of that name is not optional. How often it is required depends on the
tags: one without options adds its name each time, one with options only if the name is not there yet.
-/

namespace SwaggerGen

theorem Tag.isOptional_eq_false_of_not_hasOptions {tag : Tag} (h : tag.hasOptions = false) :
    tag.isOptional = false := by
  have hnil : tag.options = [] := by simpa [Tag.hasOptions] using h
  rw [Tag.isOptional, hnil, List.any_nil]

theorem addRequired_of_not_hasOptions {tag : Tag} (h : tag.hasOptions = false)
    (required : List String) : addRequired required tag = required ++ [tag.name] := by
  simp [addRequired, h]

theorem addRequired_of_hasOptions {tag : Tag} (h : tag.hasOptions) (required : List String) :
    addRequired required tag =
      if tag.isOptional ∨ tag.name ∈ required then required else required ++ [tag.name] := by
  rw [addRequired]
  by_cases hoptional : tag.isOptional <;> by_cases hmem : tag.name ∈ required <;>
    simp [h, hoptional, hmem]

theorem mem_addRequired (required : List String) (tag : Tag) (name : String) :
    name ∈ addRequired required tag ↔
      name ∈ required ∨ tag.name = name ∧ tag.isOptional = false := by
  cases hoptions : tag.hasOptions with
  | false =>
      have hrequired := Tag.isOptional_eq_false_of_not_hasOptions hoptions
      rw [addRequired_of_not_hasOptions hoptions]
      simp [hrequired, eq_comm]
  | true =>
      rw [addRequired_of_hasOptions hoptions]
      split
      · next h =>
          constructor
          · exact .inl
          · rintro (hmem | ⟨rfl, hrequired⟩)
            · exact hmem
            · exact h.resolve_left (by simp [hrequired])
      · next h =>
          rw [not_or, Bool.not_eq_true] at h
          simp [h.1, eq_comm]

theorem mem_foldl_addRequired (tags : List Tag) (required : List String) (name : String) :
    name ∈ tags.foldl addRequired required ↔
      name ∈ required ∨ ∃ tag ∈ tags, tag.name = name ∧ tag.isOptional = false := by
  induction tags generalizing required with
  | nil => simp
  | cons tag rest ih =>
      rw [List.foldl_cons, ih, mem_addRequired, List.exists_mem_cons_iff, or_assoc]

/-- What a tag adds depends only on which names are required before. -/
theorem exists_addRequired_eq_append {required other : List String}
    (h : ∀ name, name ∈ required ↔ name ∈ other) (tag : Tag) :
    ∃ more, addRequired required tag = required ++ more ∧ addRequired other tag = other ++ more := by
  cases hoptions : tag.hasOptions with
  | false =>
      exact ⟨[tag.name], addRequired_of_not_hasOptions hoptions _,
        addRequired_of_not_hasOptions hoptions _⟩
  | true =>
      rw [addRequired_of_hasOptions hoptions, addRequired_of_hasOptions hoptions]
      by_cases hkept : tag.isOptional ∨ tag.name ∈ required
      · rw [if_pos hkept, if_pos ((or_congr_right (h tag.name)).mp hkept)]
        exact ⟨[], by simp, by simp⟩
      · rw [if_neg hkept, if_neg fun hother => hkept ((or_congr_right (h tag.name)).mpr hother)]
        exact ⟨[tag.name], rfl, rfl⟩

theorem exists_foldl_addRequired_eq_append {required other : List String}
    (h : ∀ name, name ∈ required ↔ name ∈ other) (tags : List Tag) :
    ∃ more, tags.foldl addRequired required = required ++ more ∧
      tags.foldl addRequired other = other ++ more := by
  induction tags generalizing required other with
  | nil => exact ⟨[], by simp, by simp⟩
  | cons tag rest ih =>
      obtain ⟨first, hrequired, hother⟩ := exists_addRequired_eq_append h tag
      have hstep : ∀ name, name ∈ addRequired required tag ↔ name ∈ addRequired other tag := by
        intro name
        rw [mem_addRequired, mem_addRequired, h]
      obtain ⟨more, hmore, hothers⟩ := ih hstep
      refine ⟨first ++ more, ?_, ?_⟩
      · rw [List.foldl_cons, hmore, hrequired, List.append_assoc]
      · rw [List.foldl_cons, hothers, hother, List.append_assoc]

namespace StructType

theorem required_eq_foldl (type : StructType) :
    type.required = (type.members.filterMap (·.tag? Tag.jsonKey)).foldl addRequired [] := by
  rw [required, jsonMembers, List.map_filterMap]
  simp [Function.comp_def]

theorem properties_eq_filterMap (type : StructType) :
    type.properties = type.members.filterMap fun m =>
      (m.tag? Tag.jsonKey).map fun _ => (m.propertyName, m.schema) := by
  rw [properties, jsonMembers, List.map_filterMap]
  simp [Function.comp_def]

end StructType

end SwaggerGen
