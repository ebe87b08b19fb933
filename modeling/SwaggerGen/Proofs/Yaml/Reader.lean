import Mathlib.Data.List.DropRight
import SwaggerGen.Json.Basic
import SwaggerGen.Yaml.Scalar

/-!
# Reading YAML

A text in block style is read as a tree: mappings and sequences by the columns they stand in, and plain,
quoted and literal scalars. Plain scalars are nulls, truth values and numbers where they look like them.
Whatever else a text may hold is refused: comments, tabs, anchors, tags, folded blocks, items in
brackets, scalars without quotes on more than one line, and keys that are not strings.
-/

namespace SwaggerGen.Yaml

/-- A reader takes what it reads off the front of a text. -/
abbrev Reader (α : Type) := List Char → Option (α × List Char)

/-- The text behind the rest of a line, which may hold spaces only. -/
def endLine (s : List Char) : Option (List Char) :=
  match s.dropWhile (· == ' ') with
  | [] => some []
  | c :: rest => if isBreak c then some rest else none

/-- The next line that is not empty, from its first character on, with the column where that stands. -/
def nextLineFrom (column : Nat) : List Char → Option (Nat × List Char)
  | [] => none
  | c :: rest =>
      if c = ' ' then nextLineFrom (column + 1) rest
      else if isBreak c then nextLineFrom 0 rest
      else some (column, c :: rest)

def nextLine (s : List Char) : Option (Nat × List Char) := nextLineFrom 0 s

/-- Whether a text begins with a mark: a character that ends its token. -/
def isMark (mark : Char) : List Char → Bool
  | [] => false
  | c :: rest => c == mark && endsToken rest

def integerOf (s : List Char) : Int :=
  let magnitude : Int := (magnitude? (Text.withoutSign s)).getD 0
  if s.head? = some '-' then -magnitude else magnitude

def floatOf (s : List Char) : Float :=
  let magnitude :=
    if isInfinity (Text.withoutSign s) then 1.0 / 0.0
    else if isNaN s then 0.0 / 0.0
    else
      match Text.decimal? (Text.withoutSign s) with
      | some (digits, exponent) =>
          Float.ofScientific ((Text.number? 10 digits).getD 0) (exponent < 0) exponent.natAbs
      | none => 0
  if s.head? = some '-' then -magnitude else magnitude

def resolve (s : List Char) : Json :=
  if isNull s then .null
  else if isBoolean s then .boolean (s.head? == some 't' || s.head? == some 'T')
  else if isInteger s then .number (.integer (integerOf s))
  else if isFloat s then .number (.real (floatOf s))
  else .string (String.ofList s)

/-- The characters up to the end of the line, a colon that ends its token, or a comment, and the text
from there on. -/
def plainRun : List Char → List Char × List Char
  | [] => ([], [])
  | c :: rest =>
      if isBreak c || (c == ':' && endsToken rest) || (c == ' ' && rest.head? == some '#') then
        ([], c :: rest)
      else (c :: (plainRun rest).1, (plainRun rest).2)

/-- Reads a plain scalar; the spaces at its end do not count. -/
def readPlain : Reader Json := fun s =>
  if endsToken s || startsIndicator s then none
  else some (resolve ((plainRun s).1.rdropWhile (· == ' ')), (plainRun s).2)

/-- What stands at the front of the inside of quotes. -/
inductive Part where
  /-- The closing quote. -/
  | close
  /-- A character, written with so many. -/
  | character (c : Char) (width : Nat)
  /-- A space, which a break behind it takes away. -/
  | space
  /-- A break, which goes on in another line. -/
  | lineBreak (c : Char)

/-- What stands there, apart from quotes and escapes. A line does not begin like the marks between
documents. -/
def commonPart : List Char → Option Part
  | [] => none
  | c :: rest =>
      if c = ' ' then some .space
      else if isBreak c then
        if ['-', '-', '-'].isPrefixOf rest || ['.', '.', '.'].isPrefixOf rest then none
        else some (.lineBreak c)
      else some (.character c 1)

/-- What stands at the front of the inside of single quotes, where a quote is written twice. -/
def singlePart : List Char → Option Part
  | '\'' :: '\'' :: _ => some (.character '\'' 2)
  | '\'' :: _ => some .close
  | s => commonPart s

def letterEscape? : Char → Option Char
  | '0' => some '\x00'
  | 'a' => some '\x07'
  | 'b' => some '\x08'
  | 't' => some '\t'
  | 'n' => some '\n'
  | 'v' => some '\x0b'
  | 'f' => some '\x0c'
  | 'r' => some '\r'
  | 'e' => some '\x1b'
  | ' ' => some ' '
  | '"' => some '"'
  | '/' => some '/'
  | '\\' => some '\\'
  | 'N' => some '\u0085'
  | '_' => some '\u00a0'
  | 'L' => some '\u2028'
  | 'P' => some '\u2029'
  | _ => none

/-- The character with the code point in so many hexadecimal digits at the front of a text. -/
def hexChar? (count : Nat) (s : List Char) : Option Char :=
  (Text.leadingNumber? 16 count s).bind fun n => if n.isValidChar then some (Char.ofNat n) else none

def escapePart : List Char → Option Part
  | [] => none
  | 'x' :: rest => (hexChar? 2 rest).map (.character · 4)
  | 'u' :: rest => (hexChar? 4 rest).map (.character · 6)
  | 'U' :: rest => (hexChar? 8 rest).map (.character · 10)
  | c :: _ => (letterEscape? c).map (.character · 2)

/-- What stands at the front of the inside of double quotes. -/
def doublePart : List Char → Option Part
  | '"' :: _ => some .close
  | '\\' :: rest => escapePart rest
  | s => commonPart s

/-- The spaces and breaks behind the last character inside of quotes. -/
inductive Gap where
  /-- Spaces. -/
  | spaces (count : Nat)
  /-- A break and more of them. The spaces around them do not count. -/
  | breaks (first : Char) (more : List Char)

namespace Gap

def text : Gap → List Char
  | spaces count => Yaml.spaces count
  | breaks first more =>
      if first ≠ '\n' then first :: more else if more.isEmpty then [' '] else more

def addSpace : Gap → Gap
  | spaces count => spaces (count + 1)
  | breaks first more => breaks first more

def addBreak (c : Char) : Gap → Gap
  | spaces _ => breaks c []
  | breaks first more => breaks first (more ++ [c])

end Gap

/-- Reads up to the closing quote and over it, behind a gap, where the last part still covers the first
characters. -/
def readQuoted (part : List Char → Option Part) : Nat → Gap → Reader (List Char)
  | _, _, [] => none
  | covered + 1, gap, _ :: rest => readQuoted part covered gap rest
  | 0, gap, c :: rest =>
      match part (c :: rest) with
      | none => none
      | some .close => some (gap.text, rest)
      | some (.character plain width) =>
          (readQuoted part (width - 1) (.spaces 0) rest).map fun r => (gap.text ++ plain :: r.1, r.2)
      | some .space => readQuoted part 0 gap.addSpace rest
      | some (.lineBreak c) => readQuoted part 0 (gap.addBreak c) rest

def readString (part : List Char → Option Part) : Reader Json := fun s =>
  (readQuoted part 0 (.spaces 0) s).map fun r => (.string (String.ofList r.1), r.2)

/-- Reads a scalar that may be a key, or a container without items. -/
def readToken : Reader Json
  | '\'' :: rest => readString singlePart rest
  | '"' :: rest => readString doublePart rest
  | '[' :: ']' :: rest => some (.array [], rest)
  | '{' :: '}' :: rest => some (.object [], rest)
  | s => readPlain s

/-- What becomes of the breaks at the end of a block. -/
inductive Chomp where
  | strip
  | clip
  | keep

/-- A block with what becomes of the breaks at its end. A block of breaks only has none to clip to. -/
def Chomp.apply (s : List Char) : Chomp → List Char
  | strip => s.rdropWhile isBreak
  | clip =>
      let lines := s.rdropWhile isBreak
      if lines.isEmpty then [] else s.take (lines.length + 1)
  | keep => s

def readHint : List Char → Option Nat × List Char
  | [] => (none, [])
  | c :: rest => if '1' ≤ c ∧ c ≤ '9' then (some (c.toNat - '0'.toNat), rest) else (none, c :: rest)

/-- What the header of a block says of the breaks at its end. -/
def readChomp : List Char → Chomp × List Char
  | '-' :: rest => (.strip, rest)
  | '+' :: rest => (.keep, rest)
  | rest => (.clip, rest)

/-- The greatest number of spaces in front of the first line that is not empty and of those before
it. -/
def margin (column most : Nat) : List Char → Nat
  | [] => max column most
  | c :: rest =>
      if c = ' ' then margin (column + 1) most rest
      else if isBreak c then margin 0 (max column most) rest
      else max column most

/-- The lines of a block without their indentation, and the text from the first line that is not
indented as far. At the beginning of a line the number of its spaces so far is given. -/
def readLines (indent : Nat) : Option Nat → List Char → List Char × List Char
  | none, [] => ([], [])
  | some column, [] => ([], spaces column)
  | some column, c :: rest =>
      if isBreak c then (c :: (readLines indent (some 0) rest).1, (readLines indent (some 0) rest).2)
      else if column = indent then
        (c :: (readLines indent none rest).1, (readLines indent none rest).2)
      else if c = ' ' then readLines indent (some (column + 1)) rest
      else ([], spaces column ++ c :: rest)
  | none, c :: rest =>
      let start := if isBreak c then some 0 else none
      (c :: (readLines indent start rest).1, (readLines indent start rest).2)

/-- Reads a literal block behind its bar, in a container at a column. -/
def readLiteral (column : Nat) : Reader Json := fun s => do
  let (hint, s) := readHint s
  let (chomp, s) := readChomp s
  let s ← endLine s
  let indent :=
    match hint with
    | some n => column + n
    | none => max (margin 0 0 s) (column + 1)
  let (lines, rest) := readLines indent (some 0) s
  some (.string (String.ofList (chomp.apply lines)), rest)

/-- Reads a value that has no lines of its own, apart from those of a block. -/
def readFlat (column : Nat) : Reader Json
  | '|' :: rest => readLiteral column rest
  | s => do
      let (json, rest) ← readToken s
      let rest ← endLine rest
      some (json, rest)

/-- Reads the items of a container in a column, at most so many, each from its column to the end of its
last line. The container ends with an item of one further out, or also with what is no item of its own
where that may follow. -/
def readItems {α : Type} (item : Reader α) (isItem : List Char → Bool) (mayStop : Bool) (column : Nat) :
    Nat → Reader (List α)
  | 0, _ => none
  | tries + 1, s => do
      let (a, rest) ← item s
      match nextLine rest with
      | none => some ([a], rest)
      | some (indent, line) =>
          if indent = column ∧ isItem line then
            let (more, rest) ← readItems item isItem mayStop column tries line
            some (a :: more, rest)
          else if indent < column ∨ (indent = column ∧ mayStop) then some ([a], rest)
          else none

section Containers

variable (node : Nat → Nat → Reader Json) (column : Nat)

/-- Reads what stands behind a mark of a container: on its line or, further in, on the lines below. -/
def readMarked : Reader Json := fun s =>
  let ahead := s.dropWhile (· == ' ')
  if ahead.head?.all isBreak then
    match nextLine ahead with
    | some (indent, line) =>
        if column < indent then node column indent line
        else (endLine ahead).map fun rest => (.null, rest)
    | none => some (.null, [])
  else node column (column + 1 + (s.length - ahead.length)) ahead

def readSequence (mayStop : Bool) : Reader Json := fun s => do
  let item : Reader Json := fun s => readMarked node column s.tail
  let (items, rest) ← readItems item (isMark '-') mayStop column (s.length + 1) s
  some (.array items, rest)

/-- Reads what stands behind the colon of a key: a value on its line, or lines below. A sequence may
stand in the column of the key. -/
def readKeyed : Reader Json := fun s =>
  let ahead := s.dropWhile (· == ' ')
  if ahead.head?.all isBreak then
    match nextLine ahead with
    | some (indent, line) =>
        if column < indent then node column indent line
        else if indent = column ∧ isMark '-' line then readSequence node column true line
        else (endLine ahead).map fun rest => (.null, rest)
    | none => some (.null, [])
  else readFlat column ahead

/-- Reads a key without a mark and its colon: on one line, and not too long. -/
def readKey : Reader String := fun s => do
  let (json, rest) ← readToken s
  match json, rest.dropWhile (· == ' ') with
  | .string key, ':' :: rest =>
      let line := s.take (s.length - rest.length)
      if endsToken rest ∧ !line.any isBreak ∧ line.length ≤ 1024 then some (key, rest) else none
  | _, _ => none

def readEntry : Reader (String × Json) := fun s =>
  if isMark '?' s then do
    let (json, rest) ← readMarked node column s.tail
    match json, nextLine rest with
    | .string key, some (indent, line) =>
        if indent = column ∧ isMark ':' line then
          let (value, rest) ← readMarked node column line.tail
          some ((key, value), rest)
        else some ((key, .null), rest)
    | .string key, none => some ((key, .null), rest)
    | _, _ => none
  else do
    let (key, rest) ← readKey s
    let (value, rest) ← readKeyed node column rest
    some ((key, value), rest)

def readMapping : Reader Json := fun s => do
  let (entries, rest) ← readItems (readEntry node column) (fun _ => true) false column (s.length + 1) s
  some (.object entries, rest)

end Containers

/-- Reads a value inside of a container at a column, given the column of its first character. It may
open no more containers inside one another than the limit says. -/
def readNode : Nat → Nat → Nat → Reader Json
  | 0, outer, _, s => readFlat outer s
  | limit + 1, outer, column, s =>
      if isMark '-' s then readSequence (readNode limit) column false s
      else if isMark '?' s || (readKey s).isSome then readMapping (readNode limit) column s
      else readFlat outer s

def ofText (text : String) : Option Json := do
  let s := text.toList
  if s.all isPrintable then
    let (column, line) ← nextLine s
    let (json, rest) ← readNode (s.length + 1) 0 column line
    if (nextLine rest).isNone then some json else none
  else none

end SwaggerGen.Yaml
