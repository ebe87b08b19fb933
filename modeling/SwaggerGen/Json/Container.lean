import SwaggerGen.Json.NumberReader
import SwaggerGen.Json.StringReader

/-!
# Lists and objects of JSON

The parts of a list and of an object around their items, with what is read for each item left open.
Closing a container settles a loose fault from inside it: the closing is tried first, and the fault is
then placed where that attempt ended.
-/

namespace SwaggerGen.Json

/-- The most containers that may stand inside one another. -/
def nestingLimit : Nat := 127

/-- Goes on to the next item of a list: the text where it begins, or nothing at the closing bracket. -/
def nextItem? (first : Bool) (s : List Char) : Except Fault (Option (List Char)) :=
  match skipSpace s with
  | [] => faultAhead .endInList []
  | ']' :: _ => .ok none
  | c :: rest =>
      if first then .ok (some (c :: rest))
      else if c = ',' then
        match skipSpace rest with
        | [] => faultAhead .endInValue []
        | ']' :: rest => faultAhead .trailingComma (']' :: rest)
        | rest => .ok (some rest)
      else faultAhead .listCommaMissing (c :: rest)

/-- Goes on to the next key of an object and reads it; nothing at the closing brace. -/
def nextKey? (first : Bool) (s : List Char) : Except Fault (Option (String × List Char)) :=
  match skipSpace s with
  | [] => faultAhead .endInObject []
  | '}' :: _ => .ok none
  | c :: rest =>
      if first then
        if c = '"' then (readString rest).map some else faultAhead .keyNotString (c :: rest)
      else if c = ',' then
        match skipSpace rest with
        | [] => faultAhead .endInValue []
        | '"' :: rest => (readString rest).map some
        | '}' :: rest => faultAhead .trailingComma ('}' :: rest)
        | rest => faultAhead .keyNotString rest
      else faultAhead .objectCommaMissing (c :: rest)

def readColon (s : List Char) : Except Fault (List Char) :=
  match skipSpace s with
  | [] => faultAhead .endInObject []
  | ':' :: rest => .ok rest
  | rest => faultAhead .colonMissing rest

/-- Reads the items of a list up to its closing bracket. Each item takes at least one character, so the
length of the text bounds their number. -/
def readItems {α : Type} (item : Reader α) : Nat → Bool → Reader (List α)
  | 0, _, _ => faultAhead .endInList []
  | bound + 1, first, s => do
      match ← nextItem? first s with
      | none => .ok ([], s)
      | some s =>
          let (value, s) ← item s
          let (more, s) ← readItems item bound false s
          .ok (value :: more, s)

def readFields {σ : Type} (field : String → σ → Reader σ) : Nat → Bool → σ → Reader σ
  | 0, _, _, _ => faultAhead .endInObject []
  | bound + 1, first, state, s => do
      match ← nextKey? first s with
      | none => .ok (state, s)
      | some (key, s) =>
          let (state, s) ← field key state s
          readFields field bound false state s

/-- The text behind an attempt to close a list. -/
def afterListEnd (s : List Char) : List Char :=
  match skipSpace s with
  | ']' :: rest => rest
  | ',' :: rest => skipSpace rest
  | rest => rest

def afterObjectEnd (s : List Char) : List Char :=
  match skipSpace s with
  | '}' :: rest => rest
  | rest => rest

def closeList (s : List Char) : Except Fault (List Char) :=
  match skipSpace s with
  | [] => faultAhead .endInList []
  | ']' :: rest => .ok rest
  | ',' :: rest =>
      match skipSpace rest with
      | ']' :: rest => faultAhead .trailingComma (']' :: rest)
      | rest => faultAhead .trailingCharacters rest
  | rest => faultAhead .trailingCharacters rest

def closeObject (s : List Char) : Except Fault (List Char) :=
  match skipSpace s with
  | [] => faultAhead .endInObject []
  | '}' :: rest => .ok rest
  | ',' :: rest => faultAhead .trailingComma (',' :: rest)
  | rest => faultAhead .trailingCharacters rest

def enclosed {α : Type} (close : List Char → Except Fault (List Char))
    (afterEnd : List Char → List Char) (inside : Reader α) : Reader α := fun s =>
  match inside s with
  | .ok (value, rest) => (close rest).map (value, ·)
  | .error (.loose cause rest) => faultAt cause (afterEnd rest)
  | .error fault => .error fault

/-- Reads a list behind its opening bracket. The limit counts the containers that may still be opened,
and what is read inside is told the limit that is left. -/
def readList {α : Type} (limit : Nat) (inside : Nat → Reader α) : Reader α := fun s =>
  match limit with
  | 0 => faultAhead .tooDeep ('[' :: s)
  | limit + 1 => enclosed closeList afterListEnd (inside limit) s

def readObject {α : Type} (limit : Nat) (inside : Nat → Reader α) : Reader α := fun s =>
  match limit with
  | 0 => faultAhead .tooDeep ('{' :: s)
  | limit + 1 => enclosed closeObject afterObjectEnd (inside limit) s

/-- Reads what stands at the front where something else was wanted: a word, a number or a string in
full, of a container only that it begins. -/
def readFound : Reader Found
  | [] => faultAhead .endInValue []
  | 'n' :: rest => (readWord "ull".toList rest).map fun r => (.null, r.2)
  | 't' :: rest => (readWord "rue".toList rest).map fun r => (.boolean true, r.2)
  | 'f' :: rest => (readWord "alse".toList rest).map fun r => (.boolean false, r.2)
  | '"' :: rest => (readString rest).map fun r => (.string r.1, r.2)
  | '[' :: rest => .ok (.list, '[' :: rest)
  | '{' :: rest => .ok (.object, '{' :: rest)
  | c :: rest =>
      if c = '-' ∨ c.isDigit then (readNumber (c :: rest)).map fun r => (.number r.1, r.2)
      else faultAhead .notAValue (c :: rest)

def wrongType {α : Type} (wanted : Wanted) (s : List Char) : Except Fault α := do
  let (found, rest) ← readFound s
  faultAt (.wrongType found wanted) rest

def readStringValue (wanted : Wanted) : Reader String := fun s =>
  match skipSpace s with
  | '"' :: rest => readString rest
  | rest => wrongType wanted rest

def readListValue {α : Type} (limit : Nat) (item : Nat → Reader α) : Reader (List α) := fun s =>
  match skipSpace s with
  | '[' :: rest => readList limit (fun limit s => readItems (item limit) (s.length + 1) true s) rest
  | rest => wrongType .list rest

/-- Whether nothing but blanks is left. -/
def readEnd (s : List Char) : Except Fault Unit :=
  match skipSpace s with
  | [] => .ok ()
  | rest => faultAhead .trailingCharacters rest

def readText {α : Type} (read : Reader α) (text : String) : Except InputError α :=
  let fault (f : Fault) := f.inText text.toList
  match read text.toList with
  | .error f => .error (fault f)
  | .ok (value, rest) =>
      match readEnd rest with
      | .error f => .error (fault f)
      | .ok () => .ok value

end SwaggerGen.Json
