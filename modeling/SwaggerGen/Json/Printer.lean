import SwaggerGen.Decimal.Shortest
import SwaggerGen.Json.Basic

/-!
# JSON text

Two texts of a tree: the compact one without any blank, and the pretty one with a line for each item
and two spaces for each level. They differ in the blanks around items only, and both quote strings
alike: the quote, the backslash and the control
characters below U+0020 are escaped, everything else is written as it is.
-/

namespace SwaggerGen.Json

def hexDigit (n : Nat) : Char := Nat.digitChar (n % 16)

def escapeChar (c : Char) : List Char :=
  match c with
  | '"' => ['\\', '"']
  | '\\' => ['\\', '\\']
  | '\x08' => ['\\', 'b']
  | '\x0c' => ['\\', 'f']
  | '\n' => ['\\', 'n']
  | '\r' => ['\\', 'r']
  | '\t' => ['\\', 't']
  | c =>
      if c.toNat < 0x20 then ['\\', 'u', '0', '0', hexDigit (c.toNat / 16), hexDigit c.toNat]
      else [c]

def quote (s : String) : List Char := '"' :: s.toList.flatMap escapeChar ++ ['"']

/-- Doubles are written positionally from `10 ^ -5` up to `10 ^ 16`, and with an exponent elsewhere. -/
def realLayout : Decimal.Layout := ⟨-5, 15⟩

def Number.render : Number → List Char
  | integer n => (toString n).toList
  | real x => Decimal.render realLayout x

def booleanWord (b : Bool) : List Char := if b then "true".toList else "false".toList

/-- What stands around the items of a container. -/
structure Style where
  /-- Written before each item and before the closing bracket, at a level of nesting. -/
  lineBreak : Nat → List Char
  /-- Written between a colon and a value. -/
  gap : List Char

def Style.compact : Style := ⟨fun _ => [], []⟩

/-- A line for each item and two spaces for each level. -/
def Style.pretty : Style := ⟨fun level => '\n' :: List.replicate (2 * level) ' ', [' ']⟩

mutual
def write (style : Style) (level : Nat) : Json → List Char
  | null => "null".toList
  | boolean b => booleanWord b
  | number n => n.render
  | string s => quote s
  | array [] => ['[', ']']
  | array (item :: rest) =>
      '[' :: writeItems style (level + 1) true (item :: rest) ++ style.lineBreak level ++ [']']
  | object [] => ['{', '}']
  | object (field :: rest) =>
      '{' :: writeFields style (level + 1) true (field :: rest) ++ style.lineBreak level ++ ['}']

/-- The texts of items, with a comma before each but the first. -/
def writeItems (style : Style) (level : Nat) (first : Bool) : List Json → List Char
  | [] => []
  | item :: rest =>
      (if first then [] else [',']) ++ style.lineBreak level ++ write style level item ++
        writeItems style level false rest

def writeFields (style : Style) (level : Nat) (first : Bool) : List (String × Json) → List Char
  | [] => []
  | (key, value) :: rest =>
      (if first then [] else [',']) ++ style.lineBreak level ++ quote key ++ ':' :: style.gap ++
        write style level value ++ writeFields style level false rest
end

def toCompact (json : Json) : String := String.ofList (json.write Style.compact 0)

def toPretty (json : Json) : String := String.ofList (json.write Style.pretty 0)

end SwaggerGen.Json
