import SwaggerGen.Pattern.Check
import SwaggerGen.Text.Decimal

/-!
# Directives of a log filter

A directive names what it is about, and behind an equals sign the level from which on it is logged. It is
about a target, or about what stands between brackets: a span and, in braces, a field with a pattern for
its value. Either part may be left out. Directives are read for what is wrong with them.
-/

namespace SwaggerGen.Log

/-- What is wrong with a directive. -/
inductive DirectiveFault where
  | form
  | level
  | field (fault : Pattern.Fault)
  deriving DecidableEq, Repr

def DirectiveFault.message : DirectiveFault → String
  | form => "invalid filter directive"
  | level =>
      "error parsing level filter: expected one of \"off\", \"error\", \"warn\", \"info\", \"debug\", " ++
        "\"trace\", or a number 0-5"
  | field fault => "invalid field filter: " ++ fault.message

def levelNames : List String := ["off", "error", "warn", "info", "debug", "trace"]

def withoutPlus : List Char → List Char
  | '+' :: digits => digits
  | digits => digits

/-- Whether a text stands for a level: its name in letters of either case, or its place among the names. -/
def isLevel (s : List Char) : Bool :=
  levelNames.any (·.toList == s.map Char.toLower) ||
    (Text.number? 10 (withoutPlus s)).any (· < levelNames.length)

def isSpecialNumber (s : List Char) : Bool :=
  ["inf", "infinity", "nan"].any (·.toList == s.map Char.toLower)

def isNumber (s : List Char) : Bool :=
  (Text.decimal? (Text.withoutSign s)).isSome || isSpecialNumber (Text.withoutSign s)

/-- What is wrong with a field. Its value stands between the first two equals signs, and is a pattern unless
it is a number. -/
def fieldFault? (field : List Char) : Option DirectiveFault :=
  match field.splitOn '=' with
  | _ :: value :: _ => if isNumber value then none else (Pattern.fault? value).map .field
  | _ => none

/-- A directive with the blanks around it, and without. -/
structure Directive where
  whole : String
  trimmed : List Char
  deriving DecidableEq, Repr

namespace Directive

def ofText (text : String) : Directive := ⟨text, Text.trim text.toList⟩

/-- What is wrong with the level that a directive ends with. A directive with blanks around it has no
level that can be read. -/
def levelFault? (directive : Directive) (level : List Char) : Option DirectiveFault :=
  if directive.whole.toList = directive.trimmed ∧ (level.isEmpty ∨ isLevel level) then none
  else some .level

/-- The piece of a directive at the place of a text in it. The place is counted without the blanks in
front, and the piece is cut with them. -/
def piece (directive : Directive) (text rest : List Char) : List Char :=
  let bytes (s : List Char) := (String.ofList s).utf8ByteSize
  let first := bytes directive.trimmed - bytes (text ++ rest)
  (String.Pos.Raw.extract directive.whole ⟨first⟩ ⟨first + bytes text⟩).toList

def endFault? (directive : Directive) : List Char → Option DirectiveFault
  | [] => none
  | '=' :: level => directive.levelFault? level
  | _ => some .form

def innerFault? (directive : Directive) (s : List Char) : Option DirectiveFault :=
  match s.takeWhile (· != '}'), s.dropWhile (· != '}') with
  | _, [] => some .form
  | [], _ => some .form
  | field, rest =>
      (fieldFault? (directive.piece field rest)).or
        (match rest with
          | _ :: ']' :: rest => directive.endFault? rest
          | _ => some .form)

def bracketFault? (directive : Directive) (s : List Char) : Option DirectiveFault :=
  match s.dropWhile fun c => c != ']' && c != '{' with
  | ']' :: rest => directive.endFault? rest
  | _ :: rest => directive.innerFault? rest
  | [] => some .form

def beginsTarget (c : Char) : Bool := c == '-' || c == ':' || c == '_' || Text.isLetterOrNumber c

/-- What is wrong with a directive, if anything. One word alone is a level or else a target. -/
def fault? (directive : Directive) : Option DirectiveFault :=
  match directive.trimmed with
  | [] => some .form
  | '[' :: rest => directive.bracketFault? rest
  | c :: rest =>
      if beginsTarget c then
        match rest.dropWhile fun c => c != '=' && c != '[' with
        | [] => none
        | '=' :: level => directive.levelFault? level
        | _ :: rest => directive.bracketFault? rest
      else some .form

end Directive

def directives (filter : String) : List String :=
  ((filter.toList.splitOn ',').map String.ofList).filter (· != "")

/-- The reports on the directives of a filter that are left out, each on a line. -/
def notices (filter : String) : String :=
  String.join ((directives filter).filterMap fun text =>
    (Directive.ofText text).fault?.map fun fault => "ignoring `" ++ text ++ "`: " ++ fault.message ++ "\n")

end SwaggerGen.Log
