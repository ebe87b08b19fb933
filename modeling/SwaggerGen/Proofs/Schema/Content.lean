import Mathlib.Data.List.Basic
import SwaggerGen.Proofs.Schema.Required

/-!
# The content of a definition

A definition has a property for each member with a json tag. How often a name is required is told by
the tags of that name alone: once for each tag without options, and once more if the first tag that is
not optional has options. A required name is a property, unless it is the empty name of a tag that
gives none.
-/

namespace SwaggerGen

/-- Whether a tag makes a name required. -/
def Tag.Requires (name : String) (tag : Tag) : Prop := tag.name = name ∧ tag.isOptional = false

instance (name : String) : DecidablePred (Tag.Requires name) := fun tag =>
  inferInstanceAs (Decidable (tag.name = name ∧ tag.isOptional = false))

/-- Whether a tag makes a name required each time. -/
def Tag.Repeats (name : String) (tag : Tag) : Prop := tag.name = name ∧ tag.options = []

instance (name : String) : DecidablePred (Tag.Repeats name) := fun tag =>
  inferInstanceAs (Decidable (tag.name = name ∧ tag.options = []))

theorem Tag.hasOptions_eq_false_iff (tag : Tag) : tag.hasOptions = false ↔ tag.options = [] := by
  simp [hasOptions]

theorem Tag.isOptional_eq_false_iff (tag : Tag) :
    tag.isOptional = false ↔ ∀ option ∈ tag.options, option.name ≠ "optional" := by
  simp [isOptional]

theorem Tag.Repeats.requires {name : String} {tag : Tag} (h : tag.Repeats name) :
    tag.Requires name := by
  refine ⟨h.1, Tag.isOptional_eq_false_of_not_hasOptions ?_⟩
  exact tag.hasOptions_eq_false_iff.mpr h.2

theorem addRequired_sublist (required : List String) (tag : Tag) :
    (addRequired required tag).Sublist (required ++ [tag.name]) := by
  cases hoptions : tag.hasOptions with
  | false => rw [addRequired_of_not_hasOptions hoptions]
  | true =>
      rw [addRequired_of_hasOptions hoptions]
      split
      · exact List.sublist_append_left _ _
      · exact List.Sublist.refl _

theorem foldl_addRequired_sublist (tags : List Tag) (required : List String) :
    (tags.foldl addRequired required).Sublist (required ++ tags.map Tag.name) := by
  induction tags generalizing required with
  | nil => simp
  | cons tag rest ih =>
      rw [List.foldl_cons, List.map_cons]
      apply (ih (addRequired required tag)).trans
      rw [List.append_cons]
      exact (addRequired_sublist required tag).append (List.Sublist.refl _)

theorem count_addRequired (required : List String) (tag : Tag) (name : String) :
    (addRequired required tag).count name =
      required.count name +
        if tag.Repeats name ∨ tag.Requires name ∧ name ∉ required then 1 else 0 := by
  by_cases hname : tag.name = name
  · cases hoptions : tag.hasOptions with
    | false =>
        have hrepeats : tag.Repeats name := ⟨hname, tag.hasOptions_eq_false_iff.mp hoptions⟩
        rw [addRequired_of_not_hasOptions hoptions, if_pos (.inl hrepeats), hname]
        simp
    | true =>
        have hrepeats : ¬ tag.Repeats name := by
          intro h
          rw [tag.hasOptions_eq_false_iff.mpr h.2] at hoptions
          cases hoptions
        rw [addRequired_of_hasOptions hoptions, hname]
        cases hoptional : tag.isOptional <;> by_cases hmem : name ∈ required <;>
          simp [Tag.Requires, hrepeats, hname, hoptional, hmem]
  · have hrequires : ¬ tag.Requires name := fun h => hname h.1
    have hrepeats : ¬ tag.Repeats name := fun h => hrequires h.requires
    have hcount : ([tag.name] : List String).count name = 0 := by simp [hname]
    rw [if_neg (by simp [hrepeats, hrequires]), Nat.add_zero]
    cases hoptions : tag.hasOptions with
    | false =>
        rw [addRequired_of_not_hasOptions hoptions, List.count_append, hcount, Nat.add_zero]
    | true =>
        rw [addRequired_of_hasOptions hoptions]
        split
        · rfl
        · rw [List.count_append, hcount, Nat.add_zero]

/-- How often a name is required after some tags: each tag without options counts, and the first one
that is not optional counts if it has options and the name was not there before. -/
theorem count_foldl_addRequired (tags : List Tag) (required : List String) (name : String) :
    (tags.foldl addRequired required).count name =
      required.count name + tags.countP (Tag.Repeats name) +
        if name ∉ required ∧ (tags.find? (Tag.Requires name)).any Tag.hasOptions then 1 else 0 := by
  induction tags generalizing required with
  | nil => simp
  | cons tag rest ih =>
      rw [List.foldl_cons, ih, count_addRequired]
      by_cases hrequires : tag.Requires name
      · -- the first tag that is not optional: from here on the name is there, and only repeats count
        have hmem : name ∈ addRequired required tag := (mem_addRequired _ _ _).mpr (.inr hrequires)
        have hrest : ¬ (name ∉ addRequired required tag ∧
            (rest.find? (Tag.Requires name)).any Tag.hasOptions) := fun h => h.1 hmem
        rw [List.find?_cons_of_pos (by simpa using hrequires), Option.any_some, if_neg hrest]
        by_cases hrepeats : tag.Repeats name
        · have hoptions : tag.hasOptions = false := tag.hasOptions_eq_false_iff.mpr hrepeats.2
          rw [List.countP_cons_of_pos (by simpa using hrepeats), hoptions]
          simp only [hrepeats, true_or, if_true, Bool.false_eq_true, and_false, if_false]
          omega
        · have hoptions : tag.hasOptions = true := by
            rw [← Bool.not_eq_false, tag.hasOptions_eq_false_iff]
            exact fun h => hrepeats ⟨hrequires.1, h⟩
          rw [List.countP_cons_of_neg (by simpa using hrepeats), hoptions]
          simp only [hrepeats, hrequires, false_or, true_and, and_true]
          omega
      · have hrepeats : ¬ tag.Repeats name := fun h => hrequires h.requires
        have hmem : name ∈ addRequired required tag ↔ name ∈ required := by
          rw [mem_addRequired]
          exact or_iff_left hrequires
        rw [List.countP_cons_of_neg (by simpa using hrepeats),
          List.find?_cons_of_neg (by simpa using hrequires)]
        simp only [hmem, hrepeats, hrequires, false_and, or_self, if_false, Nat.add_zero]

def Schema.propertyNames (schema : Schema) : List String :=
  (schema.properties.getD []).map Prod.fst

namespace StructType

/-- The first json tags of the members that have one, in member order. -/
def jsonTags (type : StructType) : List Tag := type.members.filterMap (·.tag? Tag.jsonKey)

theorem mem_jsonTags_iff (type : StructType) (tag : Tag) :
    tag ∈ type.jsonTags ↔ ∃ m ∈ type.members, m.tag? Tag.jsonKey = some tag := by
  rw [jsonTags, List.mem_filterMap]

theorem required_definition (type : StructType) :
    type.definition.required = type.jsonTags.foldl addRequired [] :=
  type.required_eq_foldl

theorem mem_required_iff (type : StructType) (name : String) :
    name ∈ type.definition.required ↔ ∃ tag ∈ type.jsonTags, Tag.Requires name tag := by
  rw [required_definition, mem_foldl_addRequired]
  simp [Tag.Requires]

/-- What one member gives to the properties: its schema under the name of its first json tag, or else
under its own name. -/
def propertyOf (m : Member) : Option (String × Schema) :=
  (m.tag? Tag.jsonKey).map fun tag => (if tag.name = "" then m.name else tag.name, m.schema)

theorem properties_eq_filterMap_propertyOf (type : StructType) :
    type.properties = type.members.filterMap propertyOf := by
  rw [properties_eq_filterMap]
  apply List.filterMap_congr
  intro m _
  rw [propertyOf, Member.propertyName]
  cases m.tag? Tag.jsonKey <;> rfl

theorem properties_definition (type : StructType) :
    type.definition.properties = if type.properties = [] then none else some type.properties := rfl

theorem getD_properties_definition (type : StructType) :
    type.definition.properties.getD [] = type.members.filterMap propertyOf := by
  rw [properties_definition, ← properties_eq_filterMap_propertyOf]
  split
  · next h => rw [h, Option.getD_none]
  · rw [Option.getD_some]

theorem properties_definition_eq_none_iff (type : StructType) :
    type.definition.properties = none ↔ ∀ m ∈ type.members, m.tag? Tag.jsonKey = none := by
  have hnone : type.definition.properties = none ↔ type.properties = [] := by
    rw [properties_definition]
    split <;> simp_all
  rw [hnone, properties_eq_filterMap, List.filterMap_eq_nil_iff]
  simp

theorem mem_propertyNames_iff (type : StructType) (name : String) :
    name ∈ type.definition.propertyNames ↔ ∃ m ∈ type.members, ∃ tag,
      m.tag? Tag.jsonKey = some tag ∧ (if tag.name = "" then m.name else tag.name) = name := by
  rw [Schema.propertyNames, getD_properties_definition]
  simp [propertyOf]

/-- A definition has one property for each member with a json tag, in member order, and no properties
at all without such a member. The required names are taken from the tags in order; each is required
once for every tag of it without options, and once more if its first tag that is not optional has
options. -/
theorem definition_content (type : StructType) :
    type.definition.properties.getD [] = type.members.filterMap propertyOf ∧
      (type.definition.properties = none ↔ ∀ m ∈ type.members, m.tag? Tag.jsonKey = none) ∧
      type.definition.required.Sublist (type.jsonTags.map Tag.name) ∧
      (∀ name, type.definition.required.count name =
        type.jsonTags.countP (Tag.Repeats name) +
          if (type.jsonTags.find? (Tag.Requires name)).any Tag.hasOptions then 1 else 0) ∧
      ∀ name, name ∈ type.definition.required ↔
        ∃ tag ∈ type.jsonTags, tag.name = name ∧
          ∀ option ∈ tag.options, option.name ≠ "optional" := by
  refine ⟨type.getD_properties_definition, type.properties_definition_eq_none_iff, ?_, ?_, ?_⟩
  · rw [required_definition]
    exact foldl_addRequired_sublist type.jsonTags []
  · intro name
    rw [required_definition, count_foldl_addRequired]
    simp
  · intro name
    rw [mem_required_iff]
    simp only [Tag.Requires, Tag.isOptional_eq_false_iff]

example :
    (⟨"Query", [⟨"A", "int", "json:\"size,optional\"", ""⟩,
      ⟨"B", "int", "json:\"size,default=1\"", ""⟩, ⟨"C", "int", "json:\"size\"", ""⟩,
      ⟨"D", "int", "json:\"size,default=2\"", ""⟩]⟩ :
        StructType).definition.required = ["size", "size"] := by decide

theorem empty_mem_propertyNames_iff (type : StructType) :
    "" ∈ type.definition.propertyNames ↔ ∃ m ∈ type.members, m.name = "" ∧
      ∃ tag, m.tag? Tag.jsonKey = some tag ∧ tag.name = "" := by
  rw [mem_propertyNames_iff]
  constructor
  · rintro ⟨m, hm, tag, htag, hkey⟩
    by_cases hempty : tag.name = ""
    · rw [if_pos hempty] at hkey
      exact ⟨m, hm, hkey, tag, htag, hempty⟩
    · rw [if_neg hempty] at hkey
      exact absurd hkey hempty
  · rintro ⟨m, hm, hmember, tag, htag, hempty⟩
    exact ⟨m, hm, tag, htag, by rw [if_pos hempty, hmember]⟩

/-- A required name is a property, unless it is empty: no property goes by the empty name of a tag, but
one may go by the empty name of a member. -/
theorem mem_propertyNames_iff_of_mem_required (type : StructType) :
    (∀ name ∈ type.definition.required, name ∈ type.definition.propertyNames ↔
      name ≠ "" ∨ ∃ m ∈ type.members, m.name = "" ∧
        ∃ tag, m.tag? Tag.jsonKey = some tag ∧ tag.name = "") ∧
    ("" ∈ type.definition.propertyNames ↔ ∃ m ∈ type.members, m.name = "" ∧
      ∃ tag, m.tag? Tag.jsonKey = some tag ∧ tag.name = "") := by
  refine ⟨fun name h => ?_, type.empty_mem_propertyNames_iff⟩
  by_cases hname : name = ""
  · subst hname
    rw [empty_mem_propertyNames_iff]
    exact (or_iff_right (fun hne => hne rfl)).symm
  · obtain ⟨tag, hmem, rfl, -⟩ := (mem_required_iff _ _).mp h
    obtain ⟨m, hm, htag⟩ := (mem_jsonTags_iff _ _).mp hmem
    have hkey : tag.name ∈ type.definition.propertyNames :=
      (mem_propertyNames_iff _ _).mpr ⟨m, hm, tag, htag, if_neg hname⟩
    exact iff_of_true hkey (.inl hname)

/-- A type with a json tag that gives no name. -/
def accountType : StructType :=
  ⟨"Account", [⟨"ID", "string", "json:\"\"", ""⟩,
    ⟨"Owner", "string", "json:\"owner,default=me\"", ""⟩]⟩

/-- The empty name of the first tag is required, and the property is `ID`. -/
theorem not_forall_mem_propertyNames :
    ¬ ∀ (type : StructType) (name : String), name ∈ type.definition.required →
      name ∈ type.definition.propertyNames := by
  intro h
  have hempty : "" ∈ accountType.definition.propertyNames := h accountType "" (by decide)
  exact absurd hempty (by decide)

theorem owner_mem_propertyNames :
    "owner" ∈ accountType.definition.required ∧ "owner" ∈ accountType.definition.propertyNames ∧
      "" ∈ accountType.definition.required ∧ "" ∉ accountType.definition.propertyNames := by
  have howner : "owner" ∈ accountType.definition.required := by decide
  have hempty : "" ∈ accountType.definition.required := by decide
  obtain ⟨hrequired, hkey⟩ := mem_propertyNames_iff_of_mem_required accountType
  refine ⟨howner, (hrequired "owner" howner).mpr (.inl (by decide)), hempty, ?_⟩
  rw [hkey]
  decide

end StructType

end SwaggerGen
