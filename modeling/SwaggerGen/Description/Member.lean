import SwaggerGen.Tag.Scan

/-!
# Struct types and their members

A declared type is a name and a list of members. A member has a field name, a type name, a tag text and
a trailing comment, all of them as written.
-/

namespace SwaggerGen

structure Member where
  name : String
  typeName : String
  tag : String
  comment : String
  deriving DecidableEq, Repr, Inhabited

structure StructType where
  name : String
  members : List Member
  deriving DecidableEq, Repr, Inhabited

namespace Member

def tags (m : Member) : List Tag := Tag.ofText m.tag

def tag? (m : Member) (key : String) : Option Tag := m.tags.find? (·.key == key)

def hasTag (m : Member) (key : String) : Bool := m.tags.any (·.key == key)

theorem isSome_tag? (m : Member) (key : String) : (m.tag? key).isSome = m.hasTag key := by
  rw [Bool.eq_iff_iff]; simp [tag?, hasTag]

/-- The name of the property that a member becomes: that of its json tag, or else its own. -/
def propertyName (m : Member) : String :=
  match m.tag? Tag.jsonKey with
  | some tag => if tag.name = "" then m.name else tag.name
  | none => m.name

/-- The comment without the slashes it begins with. -/
def description (m : Member) : String := String.ofList (m.comment.toList.dropWhile (· == '/'))

end Member

end SwaggerGen
