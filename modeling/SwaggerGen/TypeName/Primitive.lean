import SwaggerGen.TypeName.Kind
import SwaggerGen.TypeName.Decoration

/-!
# Primitive types

A kind that is not struct-like has a primitive: a type word and a format word, the latter possibly
empty. A sequence takes its element name as the type word.
-/

namespace SwaggerGen

/-- The `type` and `format` words of a schema that is neither object nor reference. -/
structure Primitive where
  type : String
  format : String
  deriving DecidableEq, Repr, Inhabited

namespace Primitive

/-- The primitive of a kind; the type name matters for a sequence only. -/
def ofKind? (kind : Kind) (typeName : String) : Option Primitive :=
  match kind with
  | .integer => some ⟨"integer", "int32"⟩
  | .integer64 => some ⟨"integer", "int64"⟩
  | .boolean => some ⟨"boolean", "boolean"⟩
  | .string => some ⟨"string", ""⟩
  | .float32 => some ⟨"number", "float"⟩
  | .float64 => some ⟨"number", "double"⟩
  | .sequence => some ⟨elementName typeName, ""⟩
  | .unresolved => none

/-- Stands in for the primitive of a kind that has none. -/
def unknown (kind : Kind) : Primitive := ⟨kind.name, "UNKNOWN"⟩

/-- The primitive of a kind, or the stand-in that names the kind given last. -/
def ofKindOrUnknown (kind : Kind) (typeName : String) (shown : Kind) : Primitive :=
  (ofKind? kind typeName).getD (unknown shown)

end Primitive

end SwaggerGen
