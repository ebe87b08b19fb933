import SwaggerGen.Format.Basic
import SwaggerGen.Json.Fault

/-!
# Trees of a format

Writing a value as a tree, and taking a tree as a value. Writing gives every field, the absent ones as
`null`; taking accepts records as objects and as lists, and passes over unknown fields.

Below a choice the tree has been set aside while its tag was looked for; a list that is too long is
reported in other words there.
-/

namespace SwaggerGen

open Json

mutual
def Format.toJson : {α : Type} → Format α → α → Json
  | _, .text, s => .string s
  | _, .textMap, m => .object (m.toList.map fun entry => (entry.1, .string entry.2))
  | _, .list item, values => .array (values.map item.toJson)
  | _, .optional value, a => a.elim .null value.toJson
  | _, .record _ fields packing, a => .object (fields.toEntries (packing.unpack a))
  | _, .choice _ tag variants packing, a => .object (variants.toEntries tag (packing.unpack a))

def Fields.toEntries : {α σ : Type} → Fields α σ → α → List (String × Json)
  | _, _, .nil, () => []
  | _, _, .cons name value _ more, (a, rest) => (name, value.toJson a) :: more.toEntries rest

def Variants.toEntries (tag : String) : {α : Type} → Variants α → α → List (String × Json)
  | _, .cons name _ fields _, .inl a => (tag, .string name) :: fields.toEntries a
  | _, .cons _ _ _ more, .inr rest => more.toEntries tag rest
end

/-- What a tree begins with. -/
def Json.found : Json → Found
  | .null => .null
  | .boolean b => .boolean b
  | .number n => .number n
  | .string s => .string s
  | .array _ => .list
  | .object _ => .object

/-- Whether a tree was given as such, or set aside while a tag was looked for. -/
inductive Origin where
  | given
  | setAside
  deriving DecidableEq, Repr

def Origin.tooLong (origin : Origin) (length count : Nat) : Cause :=
  match origin with
  | given => .wrongLength length .fewerItems
  | setAside => .wrongLength length (.items count)

def textOf (wanted : Wanted) : Json → Except Cause String
  | .string s => .ok s
  | other => .error (.wrongType other.found wanted)

/-- The map of an object whose values are strings; the last value of a key counts. -/
def textMapOf : Json → Except Cause (SortedMap String)
  | .object fields => do
      let entries ← fields.mapM fun field => (textOf .string field.2).map (field.1, ·)
      .ok (SortedMap.ofList entries)
  | other => .error (.wrongType other.found .object)

/-- The tag of a choice and what remains beside it: the other fields of an object, or the items behind
the first one of a list. -/
def splitTag (label tag : String) : Json → Except Cause (Json × Json)
  | .object fields => takeTag none [] fields
  | .array (name :: rest) => .ok (name, .array rest)
  | .array [] => .error (.missingField tag)
  | other => .error (.wrongType other.found (.labelled label))
where
  /-- Goes through the fields with the tag and the other fields found so far. -/
  takeTag (found : Option Json) (others : List (String × Json)) :
      List (String × Json) → Except Cause (Json × Json)
    | [] =>
        match found with
        | none => .error (.missingField tag)
        | some name => .ok (name, .object others.reverse)
    | (key, value) :: rest =>
        if key = tag then
          if found.isSome then .error (.repeatedField tag) else takeTag (some value) others rest
        else takeTag found ((key, value) :: others) rest

def variantName (known : List String) (name : Json) : Except Cause String := do
  let name ← textOf .variantName name
  if name ∈ known then .ok name else .error (.unknownVariant name known)

/-- Takes a tree as a record, given how an entry of an object fills a slot and how the items of a list
are taken. -/
def takeRecord {α σ : Type} (origin : Origin) (label : String) (fields : Fields α σ)
    (fill : String × Json → σ → Except Cause σ) (ofItems : List Json → Except Cause (α × List Json)) :
    Json → Except Cause α
  | .object entries => do
      let slots ← entries.foldlM (fun slots entry => fill entry slots) fields.blank
      match fields.complete slots with
      | .ok a => .ok a
      | .error name => .error (.missingField name)
  | .array items => do
      let (a, rest) ← ofItems items
      if rest.isEmpty then .ok a else .error (origin.tooLong items.length fields.count)
  | other => .error (.wrongType other.found (.labelled label))

mutual
def Format.ofJson (origin : Origin) : {α : Type} → Format α → Json → Except Cause α
  | _, .text, json => textOf .string json
  | _, .textMap, json => textMapOf json
  | _, .list item, json =>
      match json with
      | .array items => items.mapM (item.ofJson origin)
      | other => .error (.wrongType other.found .list)
  | _, .optional value, json =>
      match json with
      | .null => .ok none
      | other => (value.ofJson origin other).map some
  | _, .record label fields packing, json =>
      (takeRecord origin label fields (fields.fill origin)
        (fields.ofItems origin (.fields label fields.count) 0) json).map packing.pack
  | _, .choice label tag variants packing, json => do
      let (name, content) ← splitTag label tag json
      let name ← variantName variants.names name
      (variants.ofContent name content).map packing.pack

/-- Puts an entry of an object into the slot of its field. An entry for no field is passed over. -/
def Fields.fill (origin : Origin) :
    {α σ : Type} → Fields α σ → String × Json → σ → Except Cause σ
  | _, _, .nil, _, () => .ok ()
  | _, _, .cons name value _ more, entry, (slot, slots) =>
      if entry.1 = name then
        if slot.isSome then .error (.repeatedField name)
        else (value.ofJson origin entry.2).map fun a => (some a, slots)
      else (more.fill origin entry slots).map (slot, ·)

/-- Takes the items of a list as the fields in declaration order, and gives the items left over. -/
def Fields.ofItems (origin : Origin) (extent : Extent) :
    {α σ : Type} → Fields α σ → Nat → List Json → Except Cause (α × List Json)
  | _, _, .nil, _, items => .ok ((), items)
  | _, _, .cons _ value default more, index, items =>
      match items with
      | [] =>
          match default with
          | none => .error (.wrongLength index extent)
          | some a => (more.ofItems origin extent (index + 1) []).map fun r => ((a, r.1), r.2)
      | item :: rest => do
          let a ← value.ofJson origin item
          let (others, left) ← more.ofItems origin extent (index + 1) rest
          .ok ((a, others), left)

def Variants.ofContent : {α : Type} → Variants α → String → Json → Except Cause α
  | _, .nil, name, _ => .error (.unknownVariant name [])
  | _, .cons first label fields more, name, content =>
      if name = first then
        (takeRecord .setAside label fields (fields.fill .setAside)
          (fields.ofItems .setAside (.fields label fields.count) 0) content).map .inl
      else (more.ofContent name content).map .inr
end

end SwaggerGen
