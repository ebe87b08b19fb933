import SwaggerGen.Json.Fields

/-!
# Fields by their keys

What is read behind a key of an object. A field that was left out reads as the empty text, as no items,
or as nothing, and so as what it was left out for.
-/

namespace SwaggerGen.Json

def text : Json → String
  | string s => s
  | _ => ""

@[simp] theorem text_string (s : String) : text (string s) = s := rfl

/-- The truth value that a tree is. Everything else reads as false. -/
def truth : Json → Bool
  | boolean b => b
  | _ => false

/-- The items of an array. Everything else has none. -/
def items : Json → List Json
  | array items => items
  | _ => []

def fields : Json → List (String × Json)
  | object fields => fields
  | _ => []

def textAt (key : String) (json : Json) : String := ((json.field? key).map text).getD ""

def itemsAt (key : String) (json : Json) : List Json := ((json.field? key).map items).getD []

def fieldsAt (key : String) (json : Json) : List (String × Json) :=
  ((json.field? key).map fields).getD []

theorem sizeOf_lt_of_mem_object {entries : List (String × Json)} {field : String × Json}
    (h : field ∈ entries) : sizeOf field.2 < sizeOf (object entries) := by
  have hentry := List.sizeOf_lt_of_mem h
  obtain ⟨key, value⟩ := field
  simp only [object.sizeOf_spec, Prod.mk.sizeOf_spec] at hentry ⊢
  omega

theorem sizeOf_lt_of_field? {json value : Json} {key : String} (h : json.field? key = some value) :
    sizeOf value < sizeOf json := by
  cases json with
  | object entries =>
      obtain ⟨before, after, rfl, -⟩ := List.lookup_eq_some_iff.mp h
      have hmem : (key, value) ∈ before ++ (key, value) :: after := by simp
      exact sizeOf_lt_of_mem_object hmem
  | _ => cases h

theorem sizeOf_lt_of_mem_fields {json : Json} {field : String × Json} (h : field ∈ json.fields) :
    sizeOf field.2 < sizeOf json := by
  cases json with
  | object entries => exact sizeOf_lt_of_mem_object h
  | _ => cases h

section Written

variable {α : Type} {key other : String}

@[simp] theorem field?_object (entries : List (String × Json)) :
    (object entries).field? key = entries.lookup key := rfl

@[simp] theorem lookup_textField_of_ne (h : other ≠ key) (s : String) :
    (textField key s).lookup other = none := by
  rw [textField]
  split <;> simp [h]

@[simp] theorem text_lookup_textField (s : String) :
    (((textField key s).lookup key).map text).getD "" = s := by
  rw [textField]
  split <;> simp [*]

variable {toJson : α → Json} {read : Json → α}

@[simp] theorem lookup_optionalField_of_ne (h : other ≠ key) (value : Option α) :
    (optionalField key toJson value).lookup other = none := by
  cases value <;> simp [optionalField, h]

theorem read_lookup_optionalField (h : ∀ a, read (toJson a) = a) (value : Option α) :
    ((optionalField key toJson value).lookup key).map read = value := by
  cases value <;> simp [optionalField, h]

@[simp] theorem text_lookup_optionalField (value : Option String) :
    ((optionalField key string value).lookup key).map text = value :=
  read_lookup_optionalField text_string value

@[simp] theorem lookup_listField_of_ne (h : other ≠ key) (values : List α) :
    (listField key toJson values).lookup other = none := by
  cases values <;> simp [listField, h]

@[simp] theorem items_lookup_listField (values : List α) :
    (((listField key toJson values).lookup key).map items).getD [] = values.map toJson := by
  cases values <;> simp [listField, items]

end Written

end SwaggerGen.Json
