/-!
# Tag options

One option of a field tag: a bare word, or a key and a value joined by a single `=`.
-/

namespace SwaggerGen

/-- What follows the name in a field tag, comma by comma. -/
inductive TagOption where
  | flag (text : String)
  | pair (key value : String)
  deriving DecidableEq, Repr, Inhabited

namespace TagOption

/-- A text with exactly one `=` is a pair; any other text is a flag. -/
def ofText (text : List Char) : TagOption :=
  match text.splitOn '=' with
  | [key, value] => pair (String.ofList key) (String.ofList value)
  | _ => flag (String.ofList text)

def text : TagOption → List Char
  | flag text => text.toList
  | pair key value => key.toList ++ '=' :: value.toList

theorem text_ofText (s : List Char) : (ofText s).text = s := by
  have hs : ['='].intercalate (s.splitOn '=') = s := List.intercalate_splitOn '='
  unfold ofText
  split
  · next key value h =>
      rw [h] at hs
      simpa [text, List.intercalate] using hs
  · simp [text]

def name : TagOption → String
  | flag text => text
  | pair key _ => key

/-- The choices of an option `options=a|b|c`. -/
def choices? : TagOption → Option (List String)
  | pair key value =>
      if key = "options" then some ((value.toList.splitOn '|').map String.ofList) else none
  | flag _ => none

def default? : TagOption → Option String
  | pair key value => if key = "default" then some value else none
  | flag _ => none

end TagOption

end SwaggerGen
