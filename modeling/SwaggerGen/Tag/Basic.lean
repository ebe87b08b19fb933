import SwaggerGen.Tag.Option
import SwaggerGen.Text.Blank

/-!
# Field tags

A field tag carries a key, a name and options. Its body is a comma-separated list: the name first,
then the options; blanks around each piece do not count, and an option with nothing left is dropped.
-/

namespace SwaggerGen

/-- One `key:"name,option,…"` entry of a member's tag text. -/
structure Tag where
  key : String
  name : String
  options : List TagOption
  deriving DecidableEq, Repr, Inhabited

namespace Tag

def pathKey : String := "path"

def formKey : String := "form"

def headerKey : String := "header"

def jsonKey : String := "json"

def pieces (body : List Char) : List (List Char) := (body.splitOn ',').map Text.trim

/-- The tag with the given key and body. -/
def ofBody (key : String) (body : List Char) : Tag where
  key := key
  name := String.ofList ((pieces body).headD [])
  options := ((pieces body).tail.filter (· ≠ [])).map TagOption.ofText

def body (tag : Tag) : List Char :=
  [','].intercalate (tag.name.toList :: tag.options.map TagOption.text)

def hasOptions (tag : Tag) : Bool := !tag.options.isEmpty

/-- Whether some option is named `optional`, be it a flag or a pair. -/
def isOptional (tag : Tag) : Bool := tag.options.any (·.name == "optional")

/-- The value of the last `default=value` option. -/
def default? (tag : Tag) : Option String := tag.options.reverse.findSome? TagOption.default?

/-- The choices of the first `options=a|b|c` option. -/
def choices? (tag : Tag) : Option (List String) := tag.options.findSome? TagOption.choices?

@[simp] theorem key_ofBody (key : String) (body : List Char) : (ofBody key body).key = key := rfl

end Tag

end SwaggerGen
