import SwaggerGen.SortedMap

/-!
# Formats

A format describes how the values of a type are written in JSON: as a string, as an object that maps
keys to strings, as a list, as a record with named fields, or as a choice between named records. Reading
a text, reading a tree and writing a tree are three functions on formats, so what holds of them is shown
once for all types.

A record is an object with its fields in any order, or a list of them in declaration order. A field with
a default may be absent.
-/

namespace SwaggerGen

/-- Two types that hold the same values in different packing. -/
structure Repacking (α β : Type) where
  pack : α → β
  unpack : β → α
  unpack_pack : ∀ a, unpack (pack a) = a := by intro a; rfl
  pack_unpack : ∀ b, pack (unpack b) = b := by intro b; rfl

mutual
/-- How the values of a type are written. -/
inductive Format : Type → Type 1 where
  | text : Format String
  | textMap : Format (SortedMap String)
  | list {α : Type} (item : Format α) : Format (List α)
  | optional {α : Type} (value : Format α) : Format (Option α)
  /-- A record; the label is its name in messages. -/
  | record {α σ β : Type} (label : String) (fields : Fields α σ) (packing : Repacking α β) : Format β
  /-- A choice between records, told apart by the field `tag`. -/
  | choice {α β : Type} (label tag : String) (variants : Variants α) (packing : Repacking α β) :
      Format β

/-- The fields of a record in declaration order, each with its name and its default. The first type is
that of the record, the second that of a record of which only some fields have a value. -/
inductive Fields : Type → Type → Type 1 where
  | nil : Fields Unit Unit
  | cons {α β σ : Type} (name : String) (value : Format α) (default : Option α) (more : Fields β σ) :
      Fields (α × β) (Option α × σ)

/-- The variants of a choice. The label is the name of the variant's record in messages. -/
inductive Variants : Type → Type 1 where
  | nil : Variants Empty
  | cons {α σ β : Type} (name label : String) (fields : Fields α σ) (more : Variants β) :
      Variants (α ⊕ β)
end

namespace Fields

/-- No field has a value. -/
def blank : {α σ : Type} → Fields α σ → σ
  | _, _, .nil => ()
  | _, _, .cons _ _ _ more => (none, more.blank)

def names : {α σ : Type} → Fields α σ → List String
  | _, _, .nil => []
  | _, _, .cons name _ _ more => name :: more.names

def count {α σ : Type} (fields : Fields α σ) : Nat := fields.names.length

def isFilled (name : String) : {α σ : Type} → Fields α σ → σ → Bool
  | _, _, .nil, () => false
  | _, _, .cons first _ _ more, (slot, slots) =>
      if name = first then slot.isSome else more.isFilled name slots

/-- The record in which a field without a value takes its default. Otherwise the name of the first field
that has neither. -/
def complete : {α σ : Type} → Fields α σ → σ → Except String α
  | _, _, .nil, () => .ok ()
  | _, _, .cons name _ default more, (slot, slots) =>
      match slot <|> default with
      | none => .error name
      | some value => (more.complete slots).map (value, ·)

end Fields

def Variants.names : {α : Type} → Variants α → List String
  | _, .nil => []
  | _, .cons name _ _ more => name :: more.names

end SwaggerGen
