import SwaggerGen.Tag.Basic

/-!
# Finding the tags of a member

The tag text of a member is searched from the left for entries `key:"body"`, where the key is a word
of ASCII letters, digits and underscores that does not begin with a digit, and the body is any text
without a double quote. The search goes on behind each entry that it finds; all else is passed over.
-/

namespace SwaggerGen

def isTagKeyStart (c : Char) : Bool := c.isAlpha || c == '_'

def isTagKeyChar (c : Char) : Bool := c.isAlphanum || c == '_'

/-- An entry of a tag text: its key and what stands between its quotes. -/
structure TagEntry where
  key : List Char
  body : List Char
  deriving DecidableEq, Repr

namespace TagEntry

def text (entry : TagEntry) : List Char := entry.key ++ ':' :: '"' :: entry.body ++ ['"']

def ofHead? (s : List Char) : Option TagEntry :=
  match s.takeWhile isTagKeyChar, s.dropWhile isTagKeyChar with
  | first :: more, ':' :: '"' :: rest =>
      if isTagKeyStart first && rest.contains '"' then
        some ⟨first :: more, rest.takeWhile (· != '"')⟩
      else none
  | _, _ => none

/-- The entries of a text, where the last entry found still covers the first characters. -/
def scanAfter : Nat → List Char → List TagEntry
  | _, [] => []
  | covered + 1, _ :: rest => scanAfter covered rest
  | 0, c :: rest =>
      match ofHead? (c :: rest) with
      | some entry => entry :: scanAfter (entry.text.length - 1) rest
      | none => scanAfter 0 rest

def scan (s : List Char) : List TagEntry := scanAfter 0 s

theorem scanAfter_eq_scan_drop (covered : Nat) (s : List Char) :
    scanAfter covered s = scan (s.drop covered) := by
  induction s generalizing covered with
  | nil => simp [scan, scanAfter]
  | cons c rest ih =>
      cases covered with
      | zero => rfl
      | succ n => simp [scanAfter, ih]

def tag (entry : TagEntry) : Tag := Tag.ofBody (String.ofList entry.key) entry.body

end TagEntry

def Tag.ofText (raw : String) : List Tag := (TagEntry.scan raw.toList).map TagEntry.tag

end SwaggerGen
