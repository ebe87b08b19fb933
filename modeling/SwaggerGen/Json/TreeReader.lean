import SwaggerGen.Json.Container

/-!
# Reading trees

A tree is read with a limit on nesting; the fields of its objects are kept in their order, repeated keys
included.
-/

namespace SwaggerGen.Json

/-- Adds a field to those that were read, the last one first. -/
def readTreeField (tree : Reader Json) (key : String) (fields : List (String × Json)) :
    Reader (List (String × Json)) := fun s => do
  let s ← readColon s
  let (value, s) ← tree s
  .ok ((key, value) :: fields, s)

/-- Reads a value, given how a list and an object are read behind their opening brackets. -/
def readValue (list object : Reader Json) : Reader Json := fun s =>
  match skipSpace s with
  | [] => faultAhead .endInValue []
  | 'n' :: rest => (readWord "ull".toList rest).map fun r => (.null, r.2)
  | 't' :: rest => (readWord "rue".toList rest).map fun r => (.boolean true, r.2)
  | 'f' :: rest => (readWord "alse".toList rest).map fun r => (.boolean false, r.2)
  | '"' :: rest => (readString rest).map fun r => (.string r.1, r.2)
  | '[' :: rest => list rest
  | '{' :: rest => object rest
  | c :: rest =>
      if c = '-' ∨ c.isDigit then (readNumber (c :: rest)).map fun r => (.number r.1, r.2)
      else faultAhead .notAValue (c :: rest)

/-- Reads the items of an array behind its opening bracket, and closes it. -/
def readArray (tree : Reader Json) : Reader Json := fun s => do
  let (items, rest) ← enclosed closeList afterListEnd (readItems tree (s.length + 1) true) s
  .ok (.array items, rest)

def readObjectTree (tree : Reader Json) : Reader Json := fun s => do
  let inside := readFields (readTreeField tree) (s.length + 1) true []
  let (fields, rest) ← enclosed closeObject afterObjectEnd inside s
  .ok (.object fields.reverse, rest)

/-- Reads a tree, which may open no more containers inside one another than the limit says. -/
def readTree : Nat → Reader Json
  | 0 => readValue (fun s => faultAhead .tooDeep ('[' :: s)) (fun s => faultAhead .tooDeep ('{' :: s))
  | limit + 1 => readValue (readArray (readTree limit)) (readObjectTree (readTree limit))

def parse (text : String) : Except InputError Json := readText (readTree nestingLimit) text

end SwaggerGen.Json
