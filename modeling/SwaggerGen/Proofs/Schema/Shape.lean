import SwaggerGen.Proofs.Schema.Content
import SwaggerGen.Proofs.TypeName.Reading

/-!
# The shapes of member schemas

The schema of a member is one of four things: a primitive of a scalar kind, an array of such primitives,
a reference, or an array of references. The type name tells which one it is. The stand-in for an unknown
primitive is none of them, so it occurs in no definition.
-/

namespace SwaggerGen

namespace Schema

/-- What the schema of a member may be, apart from its description and its default. -/
inductive Shape where
  | primitive (p : Primitive) (h : p ∈ Primitive.scalars)
  | primitiveArray (p : Primitive) (h : p ∈ Primitive.scalars)
  | reference (name : String)
  | referenceArray (name : String)

namespace Shape

def schema : Shape → Schema
  | primitive p _ => .ofPrimitive p
  | primitiveArray p _ => .array (.ofPrimitive p)
  | reference name => .reference (definitionRef name)
  | referenceArray name => .array (.reference (definitionRef name))

def IsArray : Shape → Prop
  | primitiveArray _ _ | referenceArray _ => True
  | primitive _ _ | reference _ => False

def IsReference : Shape → Prop
  | reference _ | referenceArray _ => True
  | primitive _ _ | primitiveArray _ _ => False

end Shape

theorem ofPrimitive_inj {p q : Primitive} : ofPrimitive p = ofPrimitive q ↔ p = q := by
  constructor
  · intro h
    have htype : p.type = q.type := congrArg Schema.type h
    have hformat : p.format = q.format := congrArg Schema.format h
    cases p
    cases q
    simp_all
  · exact congrArg ofPrimitive

theorem reference_inj {a b : String} : reference a = reference b ↔ a = b := by
  simp [reference]

theorem array_inj {a b : Schema} : array a = array b ↔ a = b := by
  simp [array]

theorem ofPrimitive_ne_array (p : Primitive) (items : Schema) : ofPrimitive p ≠ array items := by
  simp [ofPrimitive, array, empty]

theorem ofPrimitive_ne_reference (p : Primitive) (ref : String) : ofPrimitive p ≠ reference ref := by
  simp [ofPrimitive, reference, empty]

theorem array_ne_reference (items : Schema) (ref : String) : array items ≠ reference ref := by
  simp [array, reference, empty]

/-- Shapes have different schemas. -/
theorem Shape.schema_injective {a b : Shape} (h : a.schema = b.schema) : a = b := by
  -- equal shapes are told by what they are made of, and the others differ in reference or items
  cases a <;> cases b <;>
    grind [schema, ofPrimitive_inj, reference_inj, array_inj, definitionRef_injective,
      ofPrimitive_ne_array, ofPrimitive_ne_reference, array_ne_reference]

end Schema

theorem isPrefixOf_slice_iff (typeName : String) :
    ['[', ']'].isPrefixOf typeName.toList = true ↔ ∃ element, typeName = "[]" ++ element := by
  rw [List.isPrefixOf_iff_prefix]
  constructor
  · rintro ⟨element, helement⟩
    exact ⟨String.ofList element, by simp [← String.toList_inj, ← helement]⟩
  · rintro ⟨element, rfl⟩
    exact ⟨element.toList, by simp⟩

namespace Schema

theorem exists_shape_of_mem_spellings {typeName : String} (h : typeName ∈ Kind.spellings) :
    ∃ shape : Shape, ofTypeName typeName = shape.schema ∧ ¬ shape.IsReference ∧
      (shape.IsArray ↔ ∃ element, typeName = "[]" ++ element) := by
  obtain ⟨kind, hspelling⟩ := Kind.mem_spellings_iff_exists_spelling.mp h
  obtain ⟨hscalar, hkind⟩ := hspelling.isScalar_elementName
  rw [← hspelling.eq_sequence_iff]
  by_cases hsequence : kind = .sequence
  · have hofTypeName := ofTypeName_of_sequence (hspelling.ofTypeName_eq.trans hsequence)
    exact ⟨.primitiveArray _ (Primitive.ofKindOrUnknown_mem_scalars hscalar typeName .sequence),
      hofTypeName, not_false, iff_of_true trivial hsequence⟩
  · rw [← hkind.resolve_right hsequence] at hscalar
    have hofTypeName := ofTypeName_of_isScalar hspelling.ofTypeName_eq hscalar
    exact ⟨.primitive _ (Primitive.ofKindOrUnknown_mem_scalars hscalar typeName kind),
      hofTypeName, not_false, iff_of_false not_false hsequence⟩

theorem exists_shape_of_not_mem_spellings {typeName : String} (h : typeName ∉ Kind.spellings) :
    ∃ shape : Shape, ofTypeName typeName = shape.schema ∧ shape.IsReference ∧
      (shape.IsArray ↔ ∃ element, typeName = "[]" ++ element) := by
  have hkind : Kind.ofTypeName typeName = .unresolved := by
    rwa [Kind.mem_spellings_iff, not_not] at h
  rw [ofTypeName, hkind, ← isPrefixOf_slice_iff]
  by_cases hslice : ['[', ']'].isPrefixOf typeName.toList = true
  · exact ⟨.referenceArray (undecoratedName typeName), if_pos hslice, trivial,
      iff_of_true trivial hslice⟩
  · exact ⟨.reference (undecoratedName typeName), if_neg hslice, trivial,
      iff_of_false not_false hslice⟩

/-- The schema of a type name has a shape: with a reference unless the name spells a scalar, and an array
if the name begins with `[]`. -/
theorem exists_shape (typeName : String) :
    ∃ shape : Shape, ofTypeName typeName = shape.schema ∧
      (shape.IsReference ↔ typeName ∉ Kind.spellings) ∧
      (shape.IsArray ↔ ∃ element, typeName = "[]" ++ element) := by
  by_cases h : typeName ∈ Kind.spellings
  · obtain ⟨shape, hschema, hreference, harray⟩ := exists_shape_of_mem_spellings h
    exact ⟨shape, hschema, iff_of_false hreference (not_not.mpr h), harray⟩
  · obtain ⟨shape, hschema, hreference, harray⟩ := exists_shape_of_not_mem_spellings h
    exact ⟨shape, hschema, iff_of_true hreference h, harray⟩

/-- A schema within a schema: itself, one within its items, or one within a property. -/
inductive PartOf (part : Schema) : Schema → Prop
  | self : PartOf part part
  | items {whole items : Schema} (h : whole.items = some items) (hpart : PartOf part items) :
      PartOf part whole
  | property {whole : Schema} {properties : List (String × Schema)} {property : String × Schema}
      (h : whole.properties = some properties) (hmem : property ∈ properties)
      (hpart : PartOf part property.2) : PartOf part whole

/-- Whether a schema has the format of the stand-in for an unknown primitive, or one of the type words
that it may have. -/
def Degraded (schema : Schema) : Prop :=
  schema.format = "UNKNOWN" ∨ schema.type = "slice" ∨ schema.type = "invalid"

/-- Whether no part of a schema is degraded. -/
def Undegraded (schema : Schema) : Prop := ∀ part : Schema, part.PartOf schema → ¬ part.Degraded

theorem undegraded_iff (schema : Schema) :
    schema.Undegraded ↔ ¬ schema.Degraded ∧
      (∀ items, schema.items = some items → items.Undegraded) ∧
      ∀ property ∈ schema.properties.getD [], property.2.Undegraded := by
  constructor
  · intro h
    refine ⟨h schema .self, fun items hitems part hpart => h part (.items hitems hpart), ?_⟩
    intro property hmem part hpart
    cases hproperties : schema.properties with
    | none => simp [hproperties] at hmem
    | some properties =>
        rw [hproperties, Option.getD_some] at hmem
        exact h part (.property hproperties hmem hpart)
  · rintro ⟨hself, hitems, hproperties⟩ part hpart
    cases hpart with
    | self => exact hself
    | items h hpart => exact hitems _ h part hpart
    | property h hmem hpart => exact hproperties _ (by rwa [h]) part hpart

theorem undegraded_bare_iff (schema : Schema) : schema.bare.Undegraded ↔ schema.Undegraded := by
  rw [undegraded_iff, undegraded_iff schema]
  rfl

theorem undegraded_ofPrimitive {p : Primitive} (h : p ∈ Primitive.scalars) :
    (ofPrimitive p).Undegraded := by
  have hwords : ∀ p ∈ Primitive.scalars, ¬ (ofPrimitive p).Degraded := by
    simp [Primitive.scalars, Degraded, ofPrimitive]
  rw [undegraded_iff]
  exact ⟨hwords p h, by simp [ofPrimitive, empty], by simp [ofPrimitive, empty]⟩

theorem undegraded_reference (ref : String) : (reference ref).Undegraded := by
  rw [undegraded_iff]
  simp [Degraded, reference, empty]

theorem undegraded_array {items : Schema} (h : items.Undegraded) : (array items).Undegraded := by
  rw [undegraded_iff]
  simpa [Degraded, array, empty] using h

theorem Shape.undegraded_schema (shape : Shape) : shape.schema.Undegraded := by
  cases shape with
  | primitive p h => exact undegraded_ofPrimitive h
  | primitiveArray p h => exact undegraded_array (undegraded_ofPrimitive h)
  | reference name => exact undegraded_reference _
  | referenceArray name => exact undegraded_array (undegraded_reference _)

end Schema

theorem Member.undegraded_schema (m : Member) : m.schema.Undegraded := by
  obtain ⟨shape, hshape, -⟩ := Schema.exists_shape m.typeName
  rw [← Schema.undegraded_bare_iff, bare_schema, hshape]
  exact shape.undegraded_schema

theorem StructType.undegraded_definition (type : StructType) : type.definition.Undegraded := by
  rw [Schema.undegraded_iff]
  refine ⟨by simp [definition, Schema.Degraded, Schema.empty], by simp [definition, Schema.empty], ?_⟩
  intro property hmem
  rw [getD_properties_definition] at hmem
  obtain ⟨m, -, hproperty⟩ := List.mem_filterMap.mp hmem
  obtain ⟨tag, -, rfl⟩ := Option.map_eq_some_iff.mp hproperty
  exact m.undegraded_schema

/-- The schema of a member has exactly one of the shapes; it has a reference exactly if its type name is
no spelling of a scalar, and is an array exactly if that name begins with `[]`. So no part of it, and of
any definition of a document, is the stand-in for an unknown primitive. -/
theorem Api.schemas_never_degrade :
    (∀ m : Member,
      (∃ shape : Schema.Shape,
        (∀ other : Schema.Shape, m.schema.bare = other.schema ↔ other = shape) ∧
        (shape.IsReference ↔ m.typeName ∉ Kind.spellings) ∧
        (shape.IsArray ↔ ∃ element, m.typeName = "[]" ++ element)) ∧
      m.schema.Undegraded) ∧
    ∀ api : Api, ∀ entry ∈ api.document.definitions.toList, entry.2.Undegraded := by
  refine ⟨fun m => ⟨?_, m.undegraded_schema⟩, fun api entry hentry => ?_⟩
  · obtain ⟨shape, hshape, hreference, harray⟩ := Schema.exists_shape m.typeName
    refine ⟨shape, fun other => ?_, hreference, harray⟩
    rw [Member.bare_schema, hshape]
    constructor
    · exact fun h => (Schema.Shape.schema_injective h).symm
    · exact fun h => congrArg Schema.Shape.schema h.symm
  · obtain ⟨type, -, rfl⟩ := Definitions.exists_type_of_mem_addAll hentry
    exact type.undegraded_definition

theorem Api.orders_never_degrade :
    (∃ shape : Schema.Shape,
        (⟨"Items", "[]*Item", "json:\"items\"", ""⟩ : Member).schema.bare = shape.schema ∧
          shape.IsReference ∧ shape.IsArray) ∧
      ∃ definition, ("Item", definition) ∈ orders.document.definitions.toList ∧
        definition.Undegraded := by
  obtain ⟨hmembers, hdefinitions⟩ := Api.schemas_never_degrade
  obtain ⟨⟨shape, hshape, hreference, harray⟩, -⟩ :=
    hmembers ⟨"Items", "[]*Item", "json:\"items\"", ""⟩
  have hdefined : ("Item", (⟨"Item", [⟨"Count", "int64", "json:\"count\"", ""⟩]⟩ :
      StructType).definition) ∈ orders.document.definitions.toList := List.mem_cons_self
  exact ⟨⟨shape, (hshape shape).mpr rfl, hreference.mpr (by decide), harray.mpr ⟨"*Item", by decide⟩⟩,
    _, hdefined, hdefinitions orders _ hdefined⟩

end SwaggerGen
