/-!
# Kinds of type names

A declared type name belongs to one of eight kinds. Sixteen scalar names have a kind of their own,
a pointer to a scalar has the kind of that scalar, a slice of a scalar is a sequence, and every other
name is unresolved.
-/

namespace SwaggerGen

/-- What a declared type name stands for, as far as a schema can tell. -/
inductive Kind where
  | integer
  | integer64
  | boolean
  | string
  | float32
  | float64
  | sequence
  | unresolved
  deriving DecidableEq, Repr, Inhabited

namespace Kind

def name : Kind → String
  | integer => "int"
  | integer64 => "int64"
  | boolean => "bool"
  | string => "string"
  | float32 => "float32"
  | float64 => "float64"
  | sequence => "slice"
  | unresolved => "invalid"

/-- The scalar type names and their kinds. -/
def scalars : List (String × Kind) :=
  [("string", string), ("int", integer), ("int8", integer), ("int16", integer),
    ("int32", integer), ("uint", integer), ("uint8", integer), ("byte", integer),
    ("rune", integer), ("uint16", integer), ("uint32", integer), ("int64", integer64),
    ("uint64", integer64), ("bool", boolean), ("float32", float32), ("float64", float64)]

def ofScalar? (typeName : String) : Option Kind := scalars.lookup typeName

def ofTypeName (typeName : String) : Kind :=
  match ofScalar? typeName with
  | some kind => kind
  | none =>
    match typeName.toList with
    | '*' :: target => (ofScalar? (String.ofList target)).getD unresolved
    | '[' :: ']' :: element =>
      if (ofScalar? (String.ofList element)).isSome then sequence else unresolved
    | _ => unresolved

theorem mem_scalars {typeName : String} {kind : Kind} (h : ofScalar? typeName = some kind) :
    (typeName, kind) ∈ scalars := by
  obtain ⟨before, after, hs, -⟩ := List.lookup_eq_some_iff.mp h
  simp [hs]

theorem ofScalar?_ne_sequence (typeName : String) : ofScalar? typeName ≠ some sequence :=
  fun h => by simpa [scalars] using mem_scalars h

theorem ofScalar?_ne_unresolved (typeName : String) : ofScalar? typeName ≠ some unresolved :=
  fun h => by simpa [scalars] using mem_scalars h

end Kind

end SwaggerGen
