import SwaggerGen.Proofs.Document.Reader
import SwaggerGen.Proofs.Yaml.Text

/-!
# The texts of a document

Both JSON texts and the YAML text of a document hold its tree, from which the document is read back, so
that no two documents share a text.
-/

namespace SwaggerGen

open Json

section NumberFree

variable {α : Type} {toJson : α → Json} {key : String}

@[simp] theorem numberFree_string (s : String) : (string s).NumberFree := trivial

@[simp] theorem numberFree_boolean (b : Bool) : (boolean b).NumberFree := trivial

@[simp] theorem numberFree_object (entries : List (String × Json)) :
    (object entries).NumberFree ↔ FieldsNumberFree entries := Iff.rfl

@[simp] theorem fieldsNumberFree_nil : FieldsNumberFree [] := trivial

@[simp] theorem fieldsNumberFree_cons (field : String × Json) (entries : List (String × Json)) :
    FieldsNumberFree (field :: entries) ↔ field.2.NumberFree ∧ FieldsNumberFree entries := Iff.rfl

@[simp] theorem fieldsNumberFree_append (before after : List (String × Json)) :
    FieldsNumberFree (before ++ after) ↔ FieldsNumberFree before ∧ FieldsNumberFree after := by
  simp only [fieldsNumberFree_iff, List.forall_mem_append]

@[simp] theorem numberFree_textField (s : String) : FieldsNumberFree (textField key s) := by
  rw [textField]
  split
  · trivial
  · exact ⟨trivial, trivial⟩

theorem numberFree_optionalField (h : ∀ a, (toJson a).NumberFree) (value : Option α) :
    FieldsNumberFree (optionalField key toJson value) := by
  cases value with
  | none => trivial
  | some a => exact ⟨h a, trivial⟩

theorem numberFree_map (h : ∀ a, (toJson a).NumberFree) (values : List α) :
    (array (values.map toJson)).NumberFree :=
  (itemsNumberFree_iff _).mpr (List.forall_mem_map.mpr fun a _ => h a)

theorem numberFree_listField (h : ∀ a, (toJson a).NumberFree) (values : List α) :
    FieldsNumberFree (listField key toJson values) := by
  cases values with
  | nil => trivial
  | cons a rest => exact ⟨numberFree_map h (a :: rest), trivial⟩

theorem numberFree_map_entries (h : ∀ a, (toJson a).NumberFree) (entries : List (String × α)) :
    FieldsNumberFree (entries.map fun entry => (entry.1, toJson entry.2)) :=
  (fieldsNumberFree_iff _).mpr (List.forall_mem_map.mpr fun entry _ => h entry.2)

end NumberFree

mutual
theorem Schema.numberFree_toJson : (schema : Schema) → schema.toJson.NumberFree
  | ⟨ref, type, format, title, description, default, items, properties, required⟩ => by
      have hitems := numberFree_itemsField items
      have hproperties := numberFree_propertiesField properties
      rw [Schema.toJson]
      simp [numberFree_optionalField, numberFree_listField, hitems, hproperties]

theorem Schema.numberFree_itemsField : (items : Option Schema) → FieldsNumberFree (itemsField items)
  | none => trivial
  | some items => ⟨items.numberFree_toJson, trivial⟩

theorem Schema.numberFree_propertiesField : (properties : Option (List (String × Schema))) →
    FieldsNumberFree (propertiesField properties)
  | none => trivial
  | some properties => ⟨numberFree_propertyFields properties, trivial⟩

theorem Schema.numberFree_propertyFields : (properties : List (String × Schema)) →
    FieldsNumberFree (propertyFields properties)
  | [] => trivial
  | (_, schema) :: rest => ⟨schema.numberFree_toJson, numberFree_propertyFields rest⟩
end

theorem Parameter.numberFree_toJson (p : Parameter) : p.toJson.NumberFree := by
  rw [Parameter.toJson]
  simp [numberFree_optionalField, Schema.numberFree_toJson]

theorem Response.numberFree_toJson (response : Response) : response.toJson.NumberFree := by
  rw [Response.toJson]
  simp [Schema.numberFree_toJson]

theorem Operation.numberFree_toJson (op : Operation) : op.toJson.NumberFree := by
  rw [Operation.toJson]
  simp [numberFree_map_entries, numberFree_listField, Response.numberFree_toJson,
    Parameter.numberFree_toJson]

theorem PathItem.numberFree_toJson (item : PathItem) : item.toJson.NumberFree := by
  rw [PathItem.toJson]
  simp [numberFree_optionalField, Operation.numberFree_toJson]

theorem DocumentInfo.numberFree_toJson (info : DocumentInfo) : info.toJson.NumberFree := by
  rw [DocumentInfo.toJson]
  simp

theorem SecurityScheme.numberFree_toJson (scheme : SecurityScheme) : scheme.toJson.NumberFree := by
  rw [SecurityScheme.toJson]
  simp

theorem Document.numberFree_toJson (d : Document) : d.toJson.NumberFree := by
  rw [Document.toJson]
  simp [stringArray, PathMap.toJson, Definitions.toJson, numberFree_map, numberFree_map_entries,
    Schema.numberFree_toJson, PathItem.numberFree_toJson, DocumentInfo.numberFree_toJson,
    SecurityScheme.numberFree_toJson]

namespace Document

theorem ofText_toCompactJson (d : Document) : ofText d.toCompactJson = .ok d.toJson :=
  ofText_write Style.spaced_compact d.numberFree_toJson

theorem ofText_toPrettyJson (d : Document) : ofText d.toPrettyJson = .ok d.toJson :=
  ofText_write Style.spaced_pretty d.numberFree_toJson

theorem ofText_toYaml (d : Document) : Yaml.ofText d.toYaml = some d.toJson :=
  Yaml.ofText_toYaml d.numberFree_toJson

theorem toJson_injective : Function.Injective toJson :=
  Function.LeftInverse.injective ofJson_toJson

/-- The second character of a text: a quote, or a line break. -/
theorem toCompactJson_ne_toPrettyJson (d e : Document) : d.toCompactJson ≠ e.toPrettyJson := by
  obtain ⟨more, hcompact⟩ : ∃ rest, d.toCompactJson.toList = '{' :: '"' :: rest :=
    ⟨_, by rw [toCompactJson, toCompact, String.toList_ofList]; rfl⟩
  obtain ⟨others, hpretty⟩ : ∃ rest, e.toPrettyJson.toList = '{' :: '\n' :: rest :=
    ⟨_, by rw [toPrettyJson, toPretty, String.toList_ofList]; rfl⟩
  intro h
  rw [h, hpretty] at hcompact
  exact absurd (List.cons.inj (List.cons.inj hcompact).2).1 (by decide)

/-- Both texts of a document hold its tree, from which the document is read back. So a text is the text
of one document only. -/
theorem json_texts_lose_nothing (d : Document) :
    ofText d.toCompactJson = .ok d.toJson ∧ ofText d.toPrettyJson = .ok d.toJson ∧
      ofJson d.toJson = d ∧
      ∀ e : Document, (d.toCompactJson = e.toCompactJson ↔ d = e) ∧
        (d.toPrettyJson = e.toPrettyJson ↔ d = e) ∧ d.toCompactJson ≠ e.toPrettyJson := by
  refine ⟨ofText_toCompactJson d, ofText_toPrettyJson d, ofJson_toJson d, fun e =>
    ⟨⟨fun h => ?_, congrArg toCompactJson⟩, ⟨fun h => ?_, congrArg toPrettyJson⟩,
      toCompactJson_ne_toPrettyJson d e⟩⟩
  · have htree := ofText_toCompactJson d
    rw [h, ofText_toCompactJson e] at htree
    exact toJson_injective (Except.ok.inj htree).symm
  · have htree := ofText_toPrettyJson d
    rw [h, ofText_toPrettyJson e] at htree
    exact toJson_injective (Except.ok.inj htree).symm

/-- The YAML text of a document holds the same tree as its JSON text. -/
theorem yaml_agrees_with_json (d : Document) :
    Yaml.ofText d.toYaml = some d.toJson ∧ ofText d.toPrettyJson = .ok d.toJson :=
  ⟨ofText_toYaml d, ofText_toPrettyJson d⟩

end Document

end SwaggerGen
