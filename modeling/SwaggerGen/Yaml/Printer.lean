import SwaggerGen.Json.Printer
import SwaggerGen.Yaml.Scalar

/-!
# YAML text

A tree in block style, with two spaces for each level of a mapping. The items of a sequence stand at the
indentation of its key, or inline behind a dash. A key that is long or has a break is marked by `?`, and
its value then stands behind a colon on a line of its own.
-/

namespace SwaggerGen.Yaml

open Json

def isSimpleKey (key : List Char) : Bool :=
  !key.any isBreak && (String.ofList key).utf8ByteSize ≤ 128

/-- A value that takes one line: a scalar, or an empty container. -/
def flatText : Json → List Char
  | .null => "null".toList
  | .boolean b => booleanWord b
  | .number n => n.render
  | .array _ => ['[', ']']
  | .object _ => ['{', '}']
  | .string s => s.toList

/-- The line of a value without items, in a container at an indentation. -/
def flatLine (indent : Nat) : Json → List Char
  | .string s => ' ' :: scalarLine (indent + 2) s.toList
  | json => ' ' :: flatText json ++ ['\n']

mutual
def afterKey (indent : Nat) : Json → List Char
  | .array (item :: rest) => '\n' :: itemLines indent false (item :: rest)
  | .object (field :: rest) => '\n' :: fieldLines (indent + 2) false (field :: rest)
  | json => flatLine indent json

/-- What stands behind a dash, or behind the colon of a marked key. -/
def afterMark (indent : Nat) : Json → List Char
  | .array (item :: rest) => ' ' :: itemLines (indent + 2) true (item :: rest)
  | .object (field :: rest) => ' ' :: fieldLines (indent + 2) true (field :: rest)
  | json => flatLine indent json

/-- The lines of a sequence at an indentation. The flag tells that the first line is indented already. -/
def itemLines (indent : Nat) (started : Bool) : List Json → List Char
  | [] => []
  | item :: rest =>
      (if started then [] else spaces indent) ++ '-' :: afterMark indent item ++
        itemLines indent false rest

/-- The lines of a mapping at an indentation. The flag tells that the first line is indented already. -/
def fieldLines (indent : Nat) (started : Bool) : List (String × Json) → List Char
  | [] => []
  | (key, value) :: rest =>
      (if started then [] else spaces indent) ++
        (if isSimpleKey key.toList then
          scalar (indent + 2) key.toList ++ ':' :: afterKey indent value
        else
          '?' :: ' ' :: scalarLine (indent + 2) key.toList ++ spaces indent ++
            ':' :: afterMark indent value) ++
        fieldLines indent false rest
end

def document : Json → List Char
  | .array (item :: rest) => itemLines 0 false (item :: rest)
  | .object (field :: rest) => fieldLines 0 false (field :: rest)
  | .string s => scalarLine 2 s.toList
  | json => flatText json ++ ['\n']

end SwaggerGen.Yaml

namespace SwaggerGen

def Json.toYaml (json : Json) : String := String.ofList (Yaml.document json)

end SwaggerGen
