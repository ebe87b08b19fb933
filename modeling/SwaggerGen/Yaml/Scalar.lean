import SwaggerGen.Yaml.Plain

/-!
# Scalars

A string is written plain, in single quotes, in double quotes, or as a literal block. A string with a
line feed asks for a block, an ambiguous one for single quotes, any other to be plain; what the string
holds may then force single or double quotes.
-/

namespace SwaggerGen.Yaml

def isBreak (c : Char) : Bool :=
  c == '\n' || c == '\r' || c == '\u0085' || c == '\u2028' || c == '\u2029'

/-- A character that may stand for itself. -/
def isPrintable (c : Char) : Bool :=
  c == '\n' || (' ' ≤ c && c ≤ '~') || ('\u00a0' ≤ c && c != '\ufeff' && c != '\ufffe' && c != '\uffff')

def isBlankOrBreak (c : Char) : Bool := c == ' ' || c == '\t' || c == '\x00' || isBreak c

/-- Whether a text has ended or goes on with a blank. -/
def endsToken (s : List Char) : Bool := s.head?.all isBlankOrBreak

def hasPair (first second : Char → Bool) (s : List Char) : Bool :=
  (s.zip s.tail).any fun (a, b) => first a && second b

def startsIndicator (s : List Char) : Bool :=
  ['-', '-', '-'].isPrefixOf s || ['.', '.', '.'].isPrefixOf s ||
    match s with
    | [] => false
    | c :: rest =>
        "#,[]\x7b\x7d&*!|>'\"%@`".toList.contains c || ("?:-".toList.contains c && endsToken rest)

/-- Whether a colon ends a token somewhere. -/
def hasMappingColon : List Char → Bool
  | [] => false
  | c :: rest => (c == ':' && endsToken rest) || hasMappingColon rest

def allowsPlain (s : List Char) : Bool :=
  s.all (fun c => isPrintable c && !isBreak c) && s.head? != some ' ' && s.getLast? != some ' ' &&
    !startsIndicator s && !hasMappingColon s && !hasPair isBlankOrBreak (· == '#') s

def allowsSingle (s : List Char) : Bool :=
  s.all isPrintable && !hasPair isBreak (· == ' ') s && !hasPair (· == ' ') isBreak s

def allowsLiteral (s : List Char) : Bool :=
  s.all isPrintable && s.getLast? != some ' ' && !hasPair (· == ' ') isBreak s

/-- How a scalar is written. -/
inductive Style where
  | plain
  | single
  | double
  | literal
  deriving DecidableEq, Repr

def Style.ofText (s : List Char) : Style :=
  if s.contains '\n' then
    if allowsLiteral s then literal else double
  else if !isAmbiguous s && allowsPlain s then plain
  else if allowsSingle s then single
  else double

def spaces (n : Nat) : List Char := List.replicate n ' '

/-- The inside of single quotes, at an indentation. A quote is written twice, and the line behind a
break is indented; the flag tells that a break has just been written. -/
def singleBody (indent : Nat) : Bool → List Char → List Char
  | afterBreak, [] => if afterBreak then spaces indent else []
  | afterBreak, c :: rest =>
      if isBreak c then c :: singleBody indent true rest
      else
        (if afterBreak && c != ' ' then spaces indent else []) ++
          (if c = '\'' then ['\'', '\''] else [c]) ++ singleBody indent false rest

def upperHex (width n : Nat) : List Char :=
  let digits := (Nat.toDigits 16 n).map Char.toUpper
  List.replicate (width - digits.length) '0' ++ digits

def doubleChar (c : Char) : List Char :=
  match c with
  | '\x00' => ['\\', '0']
  | '\x07' => ['\\', 'a']
  | '\x08' => ['\\', 'b']
  | '\t' => ['\\', 't']
  | '\n' => ['\\', 'n']
  | '\x0b' => ['\\', 'v']
  | '\x0c' => ['\\', 'f']
  | '\r' => ['\\', 'r']
  | '\x1b' => ['\\', 'e']
  | '"' => ['\\', '"']
  | '\\' => ['\\', '\\']
  | '\u0085' => ['\\', 'N']
  | '\u2028' => ['\\', 'L']
  | '\u2029' => ['\\', 'P']
  | c =>
      if isPrintable c then [c]
      else if c.toNat ≤ 0xff then '\\' :: 'x' :: upperHex 2 c.toNat
      else if c.toNat ≤ 0xffff then '\\' :: 'u' :: upperHex 4 c.toNat
      else '\\' :: 'U' :: upperHex 8 c.toNat

/-- The mark for the breaks at the end of a block: none, one, or more. -/
def chompMark (s : List Char) : List Char :=
  match s.reverse with
  | [] => ['-']
  | last :: before =>
      if !isBreak last then ['-']
      else if before.head?.all isBreak then ['+']
      else []

/-- The lines of a block, each that is not empty at an indentation. The flag tells that a line begins. -/
def blockBody (indent : Nat) : Bool → List Char → List Char
  | _, [] => []
  | atStart, c :: rest =>
      if isBreak c then c :: blockBody indent true rest
      else (if atStart then spaces indent else []) ++ c :: blockBody indent false rest

/-- A literal block with its header, at an indentation. The indentation is given in the header when the
first character would hide it. -/
def block (indent : Nat) (s : List Char) : List Char :=
  let hint := if s.head?.any (fun c => c == ' ' || isBreak c) then ['2'] else []
  '|' :: hint ++ chompMark s ++ '\n' :: blockBody indent true s

/-- A string as a scalar, at an indentation for the lines behind the first. -/
def scalar (indent : Nat) (s : List Char) : List Char :=
  match Style.ofText s with
  | .plain => s
  | .single => '\'' :: singleBody indent false s ++ ['\'']
  | .double => '"' :: s.flatMap doubleChar ++ ['"']
  | .literal => block indent s

/-- A scalar with the end of its line. A block that ends with a break needs no other. -/
def scalarLine (indent : Nat) (s : List Char) : List Char :=
  if Style.ofText s = .literal ∧ s.getLast?.any isBreak then scalar indent s
  else scalar indent s ++ ['\n']

end SwaggerGen.Yaml
