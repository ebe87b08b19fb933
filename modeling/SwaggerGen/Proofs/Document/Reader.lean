import SwaggerGen.Document.Basic
import SwaggerGen.Proofs.Entries
import SwaggerGen.Proofs.Json.Fields

/-!
# Documents read back

A document is read back from its tree, part by part: a text that is absent is empty, an absent list has
no items, and an absent value is none.
-/

namespace SwaggerGen

open Json

def Schema.ofJson (json : Json) : Schema :=
  { ref := (json.field? "$ref").map text
    type := json.textAt "type"
    format := json.textAt "format"
    title := json.textAt "title"
    description := json.textAt "description"
    default := (json.field? "default").map text
    items := (json.field? "items").attach.map fun items => Schema.ofJson items.1
    properties := (json.field? "properties").attach.map fun properties =>
      properties.1.fields.attach.map fun field => (field.1.1, Schema.ofJson field.1.2)
    required := (json.itemsAt "required").map text }
termination_by json
decreasing_by
  · exact sizeOf_lt_of_field? items.2
  · exact Nat.lt_trans (sizeOf_lt_of_mem_fields field.2) (sizeOf_lt_of_field? properties.2)

def Location.ofText : String → Location
  | "query" => query
  | "header" => header
  | "body" => body
  | _ => path

def Parameter.ofJson (json : Json) : Parameter where
  name := json.textAt "name"
  description := json.textAt "description"
  location := .ofText (json.textAt "in")
  required := ((json.field? "required").map truth).getD false
  type := json.textAt "type"
  format := json.textAt "format"
  default := (json.field? "default").map text
  schema := (json.field? "schema").map Schema.ofJson

def Response.ofJson (json : Json) : Response where
  description := json.textAt "description"
  schema := ((json.field? "schema").map Schema.ofJson).getD .empty

def readEntries {α : Type} (read : Json → α) (entries : List (String × Json)) : List (String × α) :=
  entries.map fun entry => (entry.1, read entry.2)

def Operation.ofJson (json : Json) : Operation where
  summary := json.textAt "summary"
  description := json.textAt "description"
  operationId := json.textAt "operationId"
  responses := .ofList (readEntries Response.ofJson (json.fieldsAt "responses"))
  parameters := (json.itemsAt "parameters").map Parameter.ofJson
  tags := (json.itemsAt "tags").map text

def PathItem.ofJson (json : Json) : PathItem where
  get := (json.field? "get").map Operation.ofJson
  post := (json.field? "post").map Operation.ofJson
  put := (json.field? "put").map Operation.ofJson
  delete := (json.field? "delete").map Operation.ofJson

/-- The path items put in one after another. -/
def PathMap.ofList (entries : List (String × PathItem)) : PathMap :=
  entries.foldl (fun m entry => m.update entry.1 fun _ => entry.2) .empty

def DocumentInfo.ofJson (json : Json) : DocumentInfo :=
  ⟨json.textAt "title", json.textAt "version", json.textAt "description"⟩

def SecurityScheme.ofJson (json : Json) : SecurityScheme :=
  ⟨json.textAt "type", json.textAt "description", json.textAt "name", json.textAt "in"⟩

def Document.ofJson (json : Json) : Document where
  swagger := json.textAt "swagger"
  info := .ofJson ((json.field? "info").getD .null)
  schemes := (json.itemsAt "schemes").map text
  consumes := (json.itemsAt "consumes").map text
  produces := (json.itemsAt "produces").map text
  paths := .ofList (readEntries PathItem.ofJson (json.fieldsAt "paths"))
  definitions := .ofList (readEntries Schema.ofJson (json.fieldsAt "definitions"))
  streamDefinitions := .ofList (readEntries Schema.ofJson (json.fieldsAt "streamDefinitions"))
  securityDefinitions :=
    .ofList (readEntries SecurityScheme.ofJson (json.fieldsAt "securityDefinitions"))

@[simp] theorem text_comp_string : text ∘ Json.string = id := rfl

theorem readEntries_map {α : Type} {toJson : α → Json} {read : Json → α}
    (h : ∀ a, read (toJson a) = a) (entries : List (String × α)) :
    readEntries read (entries.map fun entry => (entry.1, toJson entry.2)) = entries := by
  rw [readEntries, List.map_map]
  refine (List.map_congr_left fun entry _ => ?_).trans (List.map_id entries)
  exact congrArg (Prod.mk entry.1) (h entry.2)

theorem ofList_readEntries {α : Type} {toJson : α → Json} {read : Json → α}
    (h : ∀ a, read (toJson a) = a) (m : SortedMap α) :
    SortedMap.ofList (readEntries read (m.toList.map fun entry => (entry.1, toJson entry.2))) = m := by
  rw [readEntries_map h, SortedMap.ofList_toList]

namespace Schema

@[simp] theorem lookup_itemsField_of_ne {other : String} (h : other ≠ "items") (items : Option Schema) :
    (itemsField items).lookup other = none := by
  cases items <;> simp [itemsField, h]

@[simp] theorem lookup_propertiesField_of_ne {other : String} (h : other ≠ "properties")
    (properties : Option (List (String × Schema))) :
    (propertiesField properties).lookup other = none := by
  cases properties <;> simp [propertiesField, h]

theorem map_attach_fields (json : Json) :
    (json.fields.attach.map fun field => (field.1.1, ofJson field.1.2)) =
      json.fields.map fun field => (field.1, ofJson field.2) :=
  List.attach_map_val (f := fun field : String × Json => (field.1, ofJson field.2))

mutual
/-- A schema is read back from its tree. -/
theorem ofJson_toJson : (schema : Schema) → ofJson schema.toJson = schema
  | ⟨ref, type, format, title, description, default, items, properties, required⟩ => by
      have hitems := map_ofJson_itemsField items
      have hproperties := map_ofJson_propertiesField properties
      rw [ofJson, toJson]
      simp [textAt, itemsAt, List.lookup_append, map_attach_fields, hitems, hproperties]

theorem map_ofJson_itemsField : (items : Option Schema) →
    ((itemsField items).lookup "items").map ofJson = items
  | none => rfl
  | some items => congrArg some items.ofJson_toJson

theorem map_ofJson_propertiesField : (properties : Option (List (String × Schema))) →
    ((propertiesField properties).lookup "properties").map (fun properties =>
      properties.fields.map fun field => (field.1, ofJson field.2)) = properties
  | none => rfl
  | some properties => congrArg some (map_ofJson_propertyFields properties)

theorem map_ofJson_propertyFields : (properties : List (String × Schema)) →
    (propertyFields properties).map (fun field => (field.1, ofJson field.2)) = properties
  | [] => rfl
  | (name, schema) :: rest =>
      congrArg₂ (fun s rest => (name, s) :: rest) schema.ofJson_toJson (map_ofJson_propertyFields rest)
end

end Schema

theorem Location.ofText_text (location : Location) : ofText location.text = location := by
  cases location <;> rfl

theorem Parameter.ofJson_toJson (p : Parameter) : ofJson p.toJson = p := by
  rw [ofJson, toJson]
  simp [textAt, List.lookup_append, SortedMap.lookup_cons_eq_ite, truth, Location.ofText_text,
    read_lookup_optionalField Schema.ofJson_toJson]

theorem Response.ofJson_toJson (response : Response) : ofJson response.toJson = response := by
  rw [ofJson, toJson]
  simp [textAt, SortedMap.lookup_cons_eq_ite, text, Schema.ofJson_toJson]

theorem Operation.ofJson_toJson (op : Operation) : ofJson op.toJson = op := by
  have hparameters : Parameter.ofJson ∘ Parameter.toJson = id := funext Parameter.ofJson_toJson
  rw [ofJson, toJson]
  simp [textAt, itemsAt, fieldsAt, fields, List.lookup_append, SortedMap.lookup_cons_eq_ite,
    ofList_readEntries Response.ofJson_toJson, hparameters]

theorem PathItem.ofJson_toJson (item : PathItem) : ofJson item.toJson = item := by
  rw [ofJson, toJson]
  simp [List.lookup_append, read_lookup_optionalField Operation.ofJson_toJson]

namespace PathMap

theorem updateEntry_of_notMem {path : String} (change : PathItem → PathItem)
    {entries : List (String × PathItem)} (h : path ∉ entries.map Prod.fst) :
    updateEntry path change entries = entries ++ [(path, change .empty)] := by
  induction entries with
  | nil => rfl
  | cons entry rest ih =>
      rw [List.map_cons, List.mem_cons, not_or] at h
      rw [updateEntry, if_neg (Ne.symm h.1), ih h.2, List.cons_append]

/-- The items of a map, put in one after another, are the map in its order. -/
theorem ofList_toList (m : PathMap) : ofList m.toList = m := by
  have hfold (entries : List (String × PathItem)) (hnodup : (entries.map Prod.fst).Nodup) :
      (ofList entries).toList = entries := by
    -- From the last entry on: its path is new to the map of those before.
    induction entries using List.reverseRecOn with
    | nil => rfl
    | append_singleton entries entry ih =>
        rw [List.map_append, List.nodup_append] at hnodup
        have ih := ih hnodup.1
        have hnew : entry.1 ∉ entries.map Prod.fst := fun hmem =>
          hnodup.2.2 entry.1 hmem entry.1 (by simp) rfl
        have hlast : (ofList (entries ++ [entry])).toList =
            updateEntry entry.1 (fun _ => entry.2) (ofList entries).toList := by
          rw [ofList, List.foldl_append]
          rfl
        rw [hlast, ih, updateEntry_of_notMem _ hnew]
  exact ext (hfold m.toList m.nodup)

end PathMap

theorem DocumentInfo.ofJson_toJson (info : DocumentInfo) : ofJson info.toJson = info := by
  rw [ofJson, toJson]
  simp [textAt, SortedMap.lookup_cons_eq_ite]

theorem SecurityScheme.ofJson_toJson (scheme : SecurityScheme) : ofJson scheme.toJson = scheme := by
  rw [ofJson, toJson]
  simp [textAt, List.lookup_append, SortedMap.lookup_cons_eq_ite]

/-- A document is read back from its tree. -/
theorem Document.ofJson_toJson (d : Document) : ofJson d.toJson = d := by
  have hpaths : PathMap.ofList (readEntries PathItem.ofJson
      (d.paths.toList.map fun entry => (entry.1, entry.2.toJson))) = d.paths := by
    rw [readEntries_map PathItem.ofJson_toJson, PathMap.ofList_toList]
  have hdefinitions (m : Definitions) : SortedMap.ofList (readEntries Schema.ofJson
      (m.toList.map fun entry => (entry.1, entry.2.toJson))) = m :=
    ofList_readEntries Schema.ofJson_toJson m
  have hsecurity := ofList_readEntries SecurityScheme.ofJson_toJson d.securityDefinitions
  rw [ofJson, toJson]
  simp [textAt, itemsAt, fieldsAt, fields, items, stringArray, SortedMap.lookup_cons_eq_ite,
    PathMap.toJson, Definitions.toJson, hpaths, hdefinitions, hsecurity, DocumentInfo.ofJson_toJson]

end SwaggerGen
