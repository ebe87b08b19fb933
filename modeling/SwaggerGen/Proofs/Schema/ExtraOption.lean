import SwaggerGen.Parameter.Request
import SwaggerGen.Proofs.Schema.Required
import SwaggerGen.Proofs.Tag.ExtraOption

/-!
# Struct types with one option more

A member with an unknown option more in a tag has the schema and the parameters that it had. The
definition of its type changes in at most one place: a name that was required again is not repeated.
-/

namespace SwaggerGen

/-- Lists that differ in one place, where a relation holds. -/
inductive ReplacesOne {α : Type} (r : α → α → Prop) : List α → List α → Prop
  | intro (before : List α) {a b : α} (h : r a b) (after : List α) :
      ReplacesOne r (before ++ a :: after) (before ++ b :: after)

theorem ReplacesOne.flatMap_eq {α β : Type} {r : α → α → Prop} {l other : List α} {f : α → List β}
    (h : ReplacesOne r l other) (hf : ∀ a b, r a b → f b = f a) : other.flatMap f = l.flatMap f := by
  obtain ⟨before, h, after⟩ := h
  rw [List.flatMap_append, List.flatMap_append, List.flatMap_cons, List.flatMap_cons, hf _ _ h]

theorem ReplacesOne.map_eq {α β : Type} {r : α → α → Prop} {l other : List α} {f : α → β}
    (h : ReplacesOne r l other) (hf : ∀ a b, r a b → f b = f a) : other.map f = l.map f := by
  obtain ⟨before, h, after⟩ := h
  rw [List.map_append, List.map_append, List.map_cons, List.map_cons, hf _ _ h]

/-- What is found in two lists that are related item by item. -/
theorem find?_cases_of_forall₂ {α : Type} {r : α → α → Prop} {p : α → Bool} {l other : List α}
    (h : List.Forall₂ r l other) (hp : ∀ a b, r a b → p b = p a) :
    (l.find? p = none ∧ other.find? p = none) ∨
      ∃ a b, l.find? p = some a ∧ other.find? p = some b ∧ r a b := by
  induction h with
  | nil => exact .inl ⟨rfl, rfl⟩
  | @cons a b _ _ hab _ ih =>
      rw [List.find?_cons, List.find?_cons, hp a b hab]
      cases p a with
      | true => exact .inr ⟨a, b, rfl, rfl, hab⟩
      | false => exact ih

namespace Member

/-- Whether a member differs from another in its tags alone, which are alike one by one. -/
structure Alike (m other : Member) : Prop where
  name_eq : other.name = m.name
  typeName_eq : other.typeName = m.typeName
  comment_eq : other.comment = m.comment
  tags : List.Forall₂ Tag.Alike m.tags other.tags

/-- A member, and the member with an unknown option more in one of its tags. -/
inductive ExtraOption : Member → Member → Prop
  | intro (m : Member) {tag : String} (h : TagEntry.ExtraOption m.tag.toList tag.toList) :
      ExtraOption m { m with tag := tag }

theorem ExtraOption.alike {m other : Member} (h : m.ExtraOption other) : m.Alike other := by
  cases h with
  | intro h =>
      refine ⟨rfl, rfl, rfl, ?_⟩
      rw [tags, tags, Tag.ofText, Tag.ofText, List.forall₂_map_left_iff, List.forall₂_map_right_iff]
      exact h.forall₂_scan

namespace Alike

variable {m other : Member}

theorem tag?_cases (h : m.Alike other) (key : String) :
    (m.tag? key = none ∧ other.tag? key = none) ∨
      ∃ tag extended, m.tag? key = some tag ∧ other.tag? key = some extended ∧ tag.Alike extended :=
  find?_cases_of_forall₂ h.tags fun _ _ halike => by rw [halike.key_eq]

theorem hasTag_eq (h : m.Alike other) (key : String) : other.hasTag key = m.hasTag key := by
  rw [← isSome_tag?, ← isSome_tag?]
  rcases h.tag?_cases key with ⟨hm, hother⟩ | ⟨tag, extended, hm, hother, -⟩
  · rw [hm, hother]
  · rw [hm, hother, Option.isSome_some, Option.isSome_some]

theorem propertyName_eq (h : m.Alike other) : other.propertyName = m.propertyName := by
  rw [propertyName, propertyName, h.name_eq]
  rcases h.tag?_cases Tag.jsonKey with ⟨hm, hother⟩ | ⟨tag, extended, hm, hother, halike⟩
  · rw [hm, hother]
  · rw [hm, hother]
    simp only [halike.name_eq]

theorem description_eq (h : m.Alike other) : other.description = m.description := by
  rw [description, description, h.comment_eq]

theorem schema_eq (h : m.Alike other) : other.schema = m.schema := by
  have hdefault : (other.tag? Tag.jsonKey).bind Tag.default? =
      (m.tag? Tag.jsonKey).bind Tag.default? := by
    rcases h.tag?_cases Tag.jsonKey with ⟨hm, hother⟩ | ⟨tag, extended, hm, hother, halike⟩
    · rw [hm, hother]
    · rw [hm, hother, Option.bind_some, Option.bind_some, halike.default?_eq]
  rw [schema, schema, h.typeName_eq, h.description_eq, hdefault]

theorem map_parameter_eq (h : m.Alike other) (location : Location) (key : String) :
    (other.tag? key).map (other.parameter location) = (m.tag? key).map (m.parameter location) := by
  rcases h.tag?_cases key with ⟨hm, hother⟩ | ⟨tag, extended, hm, hother, halike⟩
  · rw [hm, hother, Option.map_none, Option.map_none]
  · have hparameter : other.parameter location extended = m.parameter location tag := by
      rw [parameter, parameter, h.typeName_eq, h.description_eq, halike.name_eq,
        halike.isOptional_eq, halike.default?_eq]
    rw [hm, hother, Option.map_some, Option.map_some, hparameter]

theorem requestParameters_eq (h : m.Alike other) (requestName : String) :
    other.requestParameters requestName = m.requestParameters requestName := by
  rw [requestParameters, requestParameters, h.hasTag_eq, h.hasTag_eq, h.map_parameter_eq,
    h.map_parameter_eq]

end Alike

end Member

theorem Tag.Alike.addRequired_eq {tag other : Tag} (h : tag.Alike other) {required : List String}
    (hnew : tag.hasOptions = other.hasOptions ∨ tag.name ∉ required) :
    addRequired required other = addRequired required tag := by
  cases htag : tag.hasOptions with
  | true =>
      rw [addRequired_of_hasOptions htag, addRequired_of_hasOptions (h.hasOptions_of_hasOptions htag),
        h.isOptional_eq, h.name_eq]
  | false =>
      rw [addRequired_of_not_hasOptions htag]
      cases hother : other.hasOptions with
      | false => rw [addRequired_of_not_hasOptions hother, h.name_eq]
      | true =>
          have hfresh : tag.name ∉ required := hnew.resolve_left (by simp [htag, hother])
          have hrequired := h.isOptional_eq.trans (Tag.isOptional_eq_false_of_not_hasOptions htag)
          rw [addRequired_of_hasOptions hother, if_neg (by simp [hrequired, h.name_eq, hfresh]),
            h.name_eq]

/-- With an option, the tag does not repeat a name that is required already. -/
theorem Tag.Alike.addRequired_eq_self {tag other : Tag} (h : tag.Alike other)
    {required : List String} (hother : other.hasOptions)
    (hmem : tag.name ∈ required) : addRequired required other = required := by
  rw [addRequired_of_hasOptions hother, h.name_eq, if_pos (.inr hmem)]

namespace StructType

/-- A struct type, and the type with an unknown option more in a tag of one of its members. -/
inductive ExtraOption : StructType → StructType → Prop
  | intro (name : String) (before : List Member) {m other : Member} (h : m.ExtraOption other)
      (after : List Member) :
      ExtraOption ⟨name, before ++ m :: after⟩ ⟨name, before ++ other :: after⟩

/-- Whether the option is the first one of a member's json tag, while an earlier member has a json tag
of the same name that is not optional. -/
inductive LosesRepeat : StructType → StructType → Prop
  | intro (name : String) (before : List Member) {m other : Member} (h : m.ExtraOption other)
      (after : List Member) {tag extended : Tag} (htag : m.tag? Tag.jsonKey = some tag)
      (hnone : tag.hasOptions = false) (hextended : other.tag? Tag.jsonKey = some extended)
      (hsome : extended.hasOptions)
      (hrepeat : ∃ earlier ∈ before, ∃ first ∈ earlier.tag? Tag.jsonKey,
        first.name = tag.name ∧ first.isOptional = false) :
      LosesRepeat ⟨name, before ++ m :: after⟩ ⟨name, before ++ other :: after⟩

variable {type other : StructType}

theorem ExtraOption.name_eq (h : type.ExtraOption other) : other.name = type.name := by
  obtain ⟨name, before, h, after⟩ := h
  rfl

theorem ExtraOption.requestParameters_eq (h : type.ExtraOption other) :
    other.requestParameters = type.requestParameters := by
  obtain ⟨name, before, h, after⟩ := h
  apply (ReplacesOne.intro before h after).flatMap_eq
  intro m other hm
  exact hm.alike.requestParameters_eq name

theorem ExtraOption.properties_eq (h : type.ExtraOption other) :
    other.properties = type.properties := by
  obtain ⟨name, before, h, after⟩ := h
  have halike := h.alike
  rw [properties_eq_filterMap, properties_eq_filterMap, List.filterMap_append, List.filterMap_append,
    List.filterMap_cons, List.filterMap_cons, halike.propertyName_eq, halike.schema_eq]
  rcases halike.tag?_cases Tag.jsonKey with ⟨hm, hother⟩ | ⟨tag, extended, hm, hother, -⟩
  · rw [hm, hother]
  · rw [hm, hother, Option.map_some, Option.map_some]

/-- All but the required names of the definition stays. -/
theorem ExtraOption.definition_eq (h : type.ExtraOption other) :
    other.definition = { type.definition with required := other.required } := by
  rw [definition, definition, h.name_eq, h.properties_eq]

/-- The names that members require. -/
theorem mem_foldl_addRequired_members (members : List Member) (name : String) :
    name ∈ (members.filterMap (·.tag? Tag.jsonKey)).foldl addRequired [] ↔
      ∃ m ∈ members, ∃ tag ∈ m.tag? Tag.jsonKey, tag.name = name ∧ tag.isOptional = false := by
  rw [mem_foldl_addRequired]
  simp only [List.not_mem_nil, false_or, List.mem_filterMap, Option.mem_def]
  constructor
  · rintro ⟨tag, ⟨m, hm, htag⟩, h⟩
    exact ⟨m, hm, tag, htag, h⟩
  · rintro ⟨m, hm, tag, htag, h⟩
    exact ⟨tag, ⟨m, hm, htag⟩, h⟩

theorem required_append_cons (name : String) (before : List Member) (m : Member)
    (after : List Member) :
    required ⟨name, before ++ m :: after⟩ =
      (after.filterMap (·.tag? Tag.jsonKey)).foldl addRequired
        ((m.tag? Tag.jsonKey).toList.foldl addRequired
          ((before.filterMap (·.tag? Tag.jsonKey)).foldl addRequired [])) := by
  rw [required_eq_foldl, List.filterMap_append, List.foldl_append, List.filterMap_cons]
  cases m.tag? Tag.jsonKey <;> rfl

theorem ExtraOption.required_eq (h : type.ExtraOption other) (hkept : ¬ type.LosesRepeat other) :
    other.required = type.required := by
  obtain ⟨name, before, h, after⟩ := h
  rw [required_append_cons, required_append_cons]
  rcases h.alike.tag?_cases Tag.jsonKey with ⟨hm, hother⟩ | ⟨tag, extended, hm, hother, halike⟩
  · rw [hm, hother]
  · have hnew : tag.hasOptions = extended.hasOptions ∨
        tag.name ∉ (before.filterMap (·.tag? Tag.jsonKey)).foldl addRequired [] := by
      rw [or_iff_not_imp_right, not_not, mem_foldl_addRequired_members]
      intro hrepeat
      cases htag : tag.hasOptions with
      | true => exact (halike.hasOptions_of_hasOptions htag).symm
      | false =>
          refine (Bool.eq_false_iff.mpr fun hsome => hkept ?_).symm
          exact .intro name before h after hm htag hother hsome hrepeat
    have hown := halike.addRequired_eq hnew
    rw [hm, hother, Option.toList_some, Option.toList_some, List.foldl_cons, List.foldl_nil, hown,
      List.foldl_cons, List.foldl_nil]

/-- One repetition of a required name is gone, and all else stays in its place. -/
theorem LosesRepeat.exists_required_eq (h : type.LosesRepeat other) :
    ∃ front name back, name ∈ front ∧ type.required = front ++ name :: back ∧
      other.required = front ++ back := by
  obtain ⟨name, before, h, after, htag, hnone, hextended, hsome, hrepeat⟩ := h
  rename_i m other tag extended
  have halike : tag.Alike extended := by
    rcases h.alike.tag?_cases Tag.jsonKey with ⟨hm, -⟩ | ⟨first, second, hm, hother, halike⟩
    · rw [htag] at hm
      cases hm
    · rw [htag] at hm
      rw [hextended] at hother
      cases hm
      cases hother
      exact halike
  have hmem := (mem_foldl_addRequired_members before tag.name).mpr hrepeat
  rw [required_append_cons, required_append_cons, htag, hextended]
  generalize (before.filterMap (·.tag? Tag.jsonKey)).foldl addRequired [] = front at hmem
  have hsame : ∀ name, name ∈ front ++ [tag.name] ↔ name ∈ front := by
    intro name
    rw [List.mem_append, List.mem_singleton, or_iff_left_iff_imp]
    rintro rfl
    exact hmem
  obtain ⟨back, htype, hother⟩ :=
    exists_foldl_addRequired_eq_append hsame (after.filterMap (·.tag? Tag.jsonKey))
  refine ⟨front, tag.name, back, hmem, ?_, ?_⟩
  · rw [Option.toList_some, List.foldl_cons, List.foldl_nil, addRequired_of_not_hasOptions hnone,
      htype, List.append_assoc, List.singleton_append]
  · rw [Option.toList_some, List.foldl_cons, List.foldl_nil, halike.addRequired_eq_self hsome hmem,
      hother]

end StructType

end SwaggerGen
