import SwaggerGen.Format.Tree
import SwaggerGen.Json.Skip
import SwaggerGen.Json.TreeReader

/-!
# Reading text of a format

A value is read straight from a text, so that a fault has its place in it. What stands beside the tag of
a choice is first set aside as a tree; a fault in it is loose, and is settled by the container around.
-/

namespace SwaggerGen

open Json

def readTextEntry (key : String) (m : SortedMap String) : Reader (SortedMap String) := fun s => do
  let s ← readColon s
  let (value, s) ← readStringValue .string s
  .ok (m.insert key value, s)

def readVariantName (known : List String) : Reader String := fun s => do
  let (name, rest) ← readStringValue .variantName s
  if name ∈ known then .ok (name, rest) else faultAt (.unknownVariant name known) rest

/-- The name of a variant once its tag is read, and the other fields, the last one first. -/
abbrev TagState := Option String × List (String × Json)

def readTaggedEntry (tag : String) (known : List String) (limit : Nat) (key : String)
    (state : TagState) : Reader TagState := fun s =>
  if key = tag then
    if state.1.isSome then .error (.loose (.repeatedField tag) s)
    else do
      let s ← readColon s
      let (name, s) ← readVariantName known s
      .ok ((some name, state.2), s)
  else do
    let (others, s) ← readTreeField (readTree limit) key state.2 s
    .ok ((state.1, others), s)

/-- Reads a tag and what stands beside it: the inside of an object. -/
def readTaggedFields (tag : String) (known : List String) (limit : Nat) :
    Reader (String × Json) := fun s => do
  let (state, s) ← readFields (readTaggedEntry tag known limit) (s.length + 1) true (none, []) s
  match state.1 with
  | none => .error (.loose (.missingField tag) s)
  | some name => .ok ((name, .object state.2.reverse), s)

/-- Reads a tag and what stands behind it: the inside of a list. -/
def readTaggedItems (tag : String) (known : List String) (limit : Nat) :
    Reader (String × Json) := fun s => do
  match ← nextItem? true s with
  | none => .error (.loose (.missingField tag) s)
  | some s =>
      let (name, s) ← readVariantName known s
      let (items, s) ← readItems (readTree limit) (s.length + 1) false s
      .ok ((name, .array items), s)

/-- Reads the inside of a record written as an object, given how the entry of a field is read. -/
def readRecordFields {α σ : Type} (fields : Fields α σ) (entry : String → σ → Reader σ) :
    Reader α := fun s => do
  let step (key : String) (slots : σ) : Reader σ := fun s =>
    if fields.isFilled key slots then .error (.loose (.repeatedField key) s)
    else do
      let s ← readColon s
      entry key slots s
  let (slots, s) ← readFields step (s.length + 1) true fields.blank s
  match fields.complete slots with
  | .ok a => .ok (a, s)
  | .error name => .error (.loose (.missingField name) s)

mutual
/-- Reads a value. The limit counts the containers that may still be opened. -/
def Format.read : {α : Type} → Format α → Nat → Reader α
  | _, .text, _ => readStringValue .string
  | _, .textMap, limit => fun s =>
      match skipSpace s with
      | '{' :: rest =>
          readObject limit (fun _ s => readFields readTextEntry (s.length + 1) true .empty s) rest
      | rest => wrongType .object rest
  | _, .list item, limit => readListValue limit item.read
  | _, .optional value, limit => fun s =>
      match skipSpace s with
      | 'n' :: rest => (readWord "ull".toList rest).map fun r => (none, r.2)
      | rest => (value.read limit rest).map fun r => (some r.1, r.2)
  | _, .record label fields packing, limit => fun s =>
      match skipSpace s with
      | '{' :: rest => do
          let (a, rest) ←
            readObject limit (fun limit => readRecordFields fields (fields.readEntry limit)) rest
          .ok (packing.pack a, rest)
      | '[' :: rest => do
          let extent := Extent.fields label fields.count
          let (a, rest) ← readList limit (fun limit => fields.readItems limit extent 0) rest
          .ok (packing.pack a, rest)
      | rest => wrongType (.labelled label) rest
  | _, .choice label tag variants packing, limit => fun s => do
      let ((name, content), rest) ←
        match skipSpace s with
        | '{' :: rest => readObject limit (readTaggedFields tag variants.names) rest
        | '[' :: rest => readList limit (readTaggedItems tag variants.names) rest
        | rest => wrongType (.labelled label) rest
      match variants.ofContent name content with
      | .ok a => .ok (packing.pack a, rest)
      | .error cause => .error (.loose cause rest)

/-- Reads the value of the field with a name into its slot. The value of no field is passed over. -/
def Fields.readEntry : {α σ : Type} → Fields α σ → Nat → String → σ → Reader σ
  | _, _, .nil, _, _, () => fun s => (skipValue s).map fun rest => ((), rest)
  | _, _, .cons name value _ more, limit, key, (slot, slots) => fun s =>
      if key = name then (value.read limit s).map fun r => ((some r.1, slots), r.2)
      else (more.readEntry limit key slots s).map fun r => ((slot, r.1), r.2)

/-- Reads the items of a list as the fields in declaration order. Once the list has ended, the fields
that are left take their defaults. -/
def Fields.readItems : {α σ : Type} → Fields α σ → Nat → Extent → Nat → Reader α
  | _, _, .nil, _, _, _ => fun s => .ok ((), s)
  | _, _, .cons _ value default more, limit, extent, index => fun s => do
      match ← nextItem? (index == 0) s with
      | some s =>
          let (a, s) ← value.read limit s
          let (others, s) ← more.readItems limit extent (index + 1) s
          .ok ((a, others), s)
      | none =>
          match default with
          | none => .error (.loose (.wrongLength index extent) s)
          | some a => (more.readItems limit extent (index + 1) s).map fun r => ((a, r.1), r.2)
end

/-- The value that a text holds, with blanks around it at most. -/
def Format.parse {α : Type} (format : Format α) (text : String) : Except InputError α :=
  readText (format.read nestingLimit) text

/-- The value of a tree that was given as such. -/
def Format.ofTree {α : Type} (format : Format α) (json : Json) : Except InputError α :=
  match format.ofJson .given json with
  | .ok a => .ok a
  | .error cause => .error ⟨cause, none⟩

end SwaggerGen
