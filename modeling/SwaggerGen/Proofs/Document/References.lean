import SwaggerGen.Document.Basic

/-!
# The references in a document

The references of a document stand in its schemas: those of responses and parameters, those of
definitions, and the schemas of items and properties inside of them. They are the strings that its
tree holds under the key `$ref`, at whatever depth.
-/

namespace SwaggerGen

namespace Json

/-- The reference that a field is by itself. -/
def ownRef (key : String) : Json → List String
  | string s => if key = "$ref" then [s] else []
  | _ => []

mutual
/-- The strings under the key `$ref` in a tree. -/
def refs : Json → List String
  | array items => itemRefs items
  | object fields => fieldRefs fields
  | _ => []

def itemRefs : List Json → List String
  | [] => []
  | item :: rest => item.refs ++ itemRefs rest

def fieldRefs : List (String × Json) → List String
  | [] => []
  | (key, value) :: rest => ownRef key value ++ value.refs ++ fieldRefs rest
end

@[simp] theorem refs_string (s : String) : (string s).refs = [] := by simp [refs]

@[simp] theorem refs_boolean (b : Bool) : (boolean b).refs = [] := by simp [refs]

@[simp] theorem refs_object (fields : List (String × Json)) :
    (object fields).refs = fieldRefs fields := by rw [refs]

@[simp] theorem refs_array (items : List Json) : (array items).refs = itemRefs items := by rw [refs]

@[simp] theorem fieldRefs_nil : fieldRefs [] = [] := by rw [fieldRefs]

@[simp] theorem fieldRefs_cons (key : String) (value : Json) (rest : List (String × Json)) :
    fieldRefs ((key, value) :: rest) = ownRef key value ++ value.refs ++ fieldRefs rest := by
  rw [fieldRefs]

@[simp] theorem fieldRefs_append (first second : List (String × Json)) :
    fieldRefs (first ++ second) = fieldRefs first ++ fieldRefs second := by
  induction first with
  | nil => rfl
  | cons field rest ih =>
      obtain ⟨key, value⟩ := field
      rw [List.cons_append, fieldRefs, fieldRefs, ih]
      simp only [List.append_assoc]

theorem itemRefs_map {α : Type} (toJson : α → Json) (items : List α) :
    itemRefs (items.map toJson) = items.flatMap fun a => (toJson a).refs := by
  induction items with
  | nil => rfl
  | cons a rest ih => rw [List.map_cons, itemRefs, ih, List.flatMap_cons]

@[simp] theorem ownRef_eq_nil {key : String} (hkey : key ≠ "$ref") (value : Json) :
    ownRef key value = [] := by
  cases value <;> simp [ownRef, hkey]

@[simp] theorem fieldRefs_textField {key : String} (hkey : key ≠ "$ref") (s : String) :
    fieldRefs (textField key s) = [] := by
  rw [textField]
  split
  · rfl
  · simp [fieldRefs, refs, ownRef_eq_nil hkey]

@[simp] theorem fieldRefs_optionalField {α : Type} {key : String} (hkey : key ≠ "$ref")
    (toJson : α → Json) (a : Option α) :
    fieldRefs (optionalField key toJson a) = a.toList.flatMap fun a => (toJson a).refs := by
  cases a <;> simp [optionalField, fieldRefs, ownRef_eq_nil hkey]

@[simp] theorem fieldRefs_listField {α : Type} {key : String} (hkey : key ≠ "$ref")
    (toJson : α → Json) (items : List α) :
    fieldRefs (listField key toJson items) = items.flatMap fun a => (toJson a).refs := by
  cases items with
  | nil => rfl
  | cons a rest =>
      rw [listField, fieldRefs, ownRef_eq_nil hkey, refs, itemRefs_map]
      simp [fieldRefs]

/-- A field that holds an object is no reference by itself, whatever its key is. -/
theorem ownRef_of_object (key : String) {value : Json} (h : ∃ fields, value = .object fields) :
    ownRef key value = [] := by
  obtain ⟨fields, rfl⟩ := h
  rfl

theorem fieldRefs_map_object {α : Type} {toJson : α → Json}
    (h : ∀ a, ∃ fields, toJson a = .object fields) (entries : List (String × α)) :
    fieldRefs (entries.map fun entry => (entry.1, toJson entry.2)) =
      entries.flatMap fun entry => (toJson entry.2).refs := by
  induction entries with
  | nil => rfl
  | cons entry rest ih =>
      rw [List.map_cons, fieldRefs_cons, ih, List.flatMap_cons, ownRef_of_object _ (h entry.2),
        List.nil_append]

end Json

namespace Schema

mutual
/-- The references in a schema: its own, that of its items and those of its properties. -/
def refs : Schema → List String
  | ⟨ref, _, _, _, _, _, items, properties, _⟩ =>
      ref.toList ++ itemRefs items ++ propertyRefs properties

def itemRefs : Option Schema → List String
  | none => []
  | some items => items.refs

def propertyRefs : Option (List (String × Schema)) → List String
  | none => []
  | some properties => namedRefs properties

def namedRefs : List (String × Schema) → List String
  | [] => []
  | (_, schema) :: rest => schema.refs ++ namedRefs rest
end

theorem refs_eq (schema : Schema) :
    schema.refs = schema.ref.toList ++ itemRefs schema.items ++ propertyRefs schema.properties := by
  cases schema
  rw [refs]

theorem namedRefs_eq_flatMap (properties : List (String × Schema)) :
    namedRefs properties = properties.flatMap (·.2.refs) := by
  induction properties with
  | nil => rfl
  | cons property rest ih =>
      obtain ⟨name, schema⟩ := property
      rw [namedRefs, ih, List.flatMap_cons]

@[simp] theorem refs_empty : empty.refs = [] := by simp [refs_eq, empty, itemRefs, propertyRefs]

@[simp] theorem refs_reference (ref : String) : (reference ref).refs = [ref] := by
  simp [refs_eq, reference, empty, itemRefs, propertyRefs]

@[simp] theorem refs_ofPrimitive (primitive : Primitive) : (ofPrimitive primitive).refs = [] := by
  simp [refs_eq, ofPrimitive, empty, itemRefs, propertyRefs]

@[simp] theorem refs_array (items : Schema) : (array items).refs = items.refs := by
  rw [refs_eq]
  simp [array, empty, itemRefs, propertyRefs]

theorem toJson_eq_object (schema : Schema) : ∃ fields, schema.toJson = .object fields := by
  cases schema
  rw [toJson]
  exact ⟨_, rfl⟩

mutual
theorem refs_toJson : ∀ schema : Schema, schema.toJson.refs = schema.refs
  | ⟨ref, type, format, title, description, default, items, properties, required⟩ => by
      have href : Json.fieldRefs (Json.optionalField "$ref" .string ref) = ref.toList := by
        cases ref <;> simp [Json.optionalField, Json.fieldRefs, Json.ownRef, Json.refs]
      rw [toJson, Json.refs, refs]
      simp [href, fieldRefs_itemsField, fieldRefs_propertiesField, List.flatMap_eq_nil_iff.mpr]

theorem fieldRefs_itemsField : ∀ items : Option Schema,
    Json.fieldRefs (itemsField items) = itemRefs items
  | none => rfl
  | some items => by
      rw [itemsField, itemRefs, ← refs_toJson items]
      simp [Json.fieldRefs, Json.ownRef_eq_nil]

theorem fieldRefs_propertiesField : ∀ properties : Option (List (String × Schema)),
    Json.fieldRefs (propertiesField properties) = propertyRefs properties
  | none => rfl
  | some properties => by
      rw [propertiesField, propertyRefs, ← fieldRefs_propertyFields properties]
      simp [Json.fieldRefs, Json.ownRef_eq_nil, Json.refs]

theorem fieldRefs_propertyFields : ∀ properties : List (String × Schema),
    Json.fieldRefs (propertyFields properties) = namedRefs properties
  | [] => rfl
  | (name, schema) :: rest => by
      rw [propertyFields, namedRefs, Json.fieldRefs_cons,
        Json.ownRef_of_object name (toJson_eq_object schema), refs_toJson schema,
        fieldRefs_propertyFields rest, List.nil_append]
end

end Schema

def Parameter.refs (p : Parameter) : List String := p.schema.toList.flatMap Schema.refs

/-- The references in an operation: those of its responses and those of its parameters. -/
def Operation.refs (op : Operation) : List String :=
  (op.responses.toList.flatMap fun entry => entry.2.schema.refs) ++
    op.parameters.flatMap Parameter.refs

def PathItem.refs (item : PathItem) : List String :=
  item.get.toList.flatMap Operation.refs ++ item.post.toList.flatMap Operation.refs ++
    item.put.toList.flatMap Operation.refs ++ item.delete.toList.flatMap Operation.refs

def PathMap.refs (m : PathMap) : List String := m.toList.flatMap fun entry => entry.2.refs

def Definitions.refs (definitions : Definitions) : List String :=
  definitions.toList.flatMap fun entry => entry.2.refs

def Document.refs (d : Document) : List String :=
  d.paths.refs ++ d.definitions.refs ++ d.streamDefinitions.refs

theorem Parameter.refs_toJson (p : Parameter) : p.toJson.refs = p.refs := by
  simp [toJson, refs, Schema.refs_toJson, List.flatMap_eq_nil_iff.mpr]

theorem Response.refs_toJson (response : Response) :
    response.toJson.refs = response.schema.refs := by
  simp [toJson, Schema.refs_toJson]

theorem Operation.refs_toJson (op : Operation) : op.toJson.refs = op.refs := by
  have hobject (response : Response) : ∃ fields, response.toJson = .object fields := ⟨_, rfl⟩
  have hresponses := Json.fieldRefs_map_object hobject op.responses.toList
  simp [toJson, refs, hresponses, Response.refs_toJson, Parameter.refs_toJson,
    List.flatMap_eq_nil_iff.mpr]

theorem PathItem.refs_toJson (item : PathItem) : item.toJson.refs = item.refs := by
  simp [toJson, refs, Operation.refs_toJson]

theorem PathMap.refs_toJson (m : PathMap) : m.toJson.refs = m.refs := by
  have hobject (item : PathItem) : ∃ fields, item.toJson = .object fields := ⟨_, rfl⟩
  have hitems := Json.fieldRefs_map_object hobject m.toList
  simp [toJson, refs, hitems, PathItem.refs_toJson]

theorem Definitions.refs_toJson (definitions : Definitions) :
    definitions.toJson.refs = definitions.refs := by
  have hschemas := Json.fieldRefs_map_object Schema.toJson_eq_object definitions.toList
  simp [toJson, refs, hschemas, Schema.refs_toJson]

theorem Document.refs_toJson (d : Document) : d.toJson.refs = d.refs := by
  have hinfo : d.info.toJson.refs = [] := by simp [DocumentInfo.toJson]
  have hstrings (strings : List String) : (stringArray strings).refs = [] := by
    simp [stringArray, Json.itemRefs_map, List.flatMap_eq_nil_iff.mpr]
  have hobject (scheme : SecurityScheme) : ∃ fields, scheme.toJson = .object fields := ⟨_, rfl⟩
  have hschemes := Json.fieldRefs_map_object hobject d.securityDefinitions.toList
  have hscheme (scheme : SecurityScheme) : scheme.toJson.refs = [] := by
    simp [SecurityScheme.toJson]
  simp [toJson, refs, hinfo, hstrings, hschemes, hscheme, PathMap.refs_toJson,
    Definitions.refs_toJson, List.flatMap_eq_nil_iff.mpr]

end SwaggerGen
