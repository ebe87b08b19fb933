import SwaggerGen.Text.Replace

/-!
# Path templates

A route path marks a parameter by a segment that starts with a colon. Its template shows the parameter
in braces. Each mark is put in braces where its text first occurs, which is the segment itself unless an
earlier piece of the template reads the same.
-/

namespace SwaggerGen.PathTemplate

def colonCount (path : String) : Nat := path.toList.count ':'

/-- The parameter name in a segment that starts with a colon. -/
def parameterName? : List Char → Option (List Char)
  | ':' :: name => some name
  | _ => none

def segments (path : List Char) : List (List Char) := path.splitOn '/'

def parameterNames (path : List Char) : List (List Char) :=
  (segments path).filterMap parameterName?

def braced (name : List Char) : List Char := '{' :: name ++ ['}']

def braceMark (template name : List Char) : List Char :=
  Text.replaceFirst (':' :: name) (braced name) template

/-- The template with every mark in braces, in the order of the segments. -/
def braceMarks (path : List Char) : List Char := (parameterNames path).foldl braceMark path

def ofPath (path : String) : String := String.ofList (braceMarks path.toList)

/-- A segment on its own: a parameter in braces, any other segment as it is. -/
def braceSegment (segment : List Char) : List Char :=
  match parameterName? segment with
  | some name => braced name
  | none => segment

/-- The path with each segment put in braces on its own. -/
def segmentwise (path : List Char) : List Char :=
  ['/'].intercalate ((segments path).map braceSegment)

/-- A character of a template as it stands in a path: an opening brace is a mark, a closing one goes. -/
def unbracedChar (c : Char) : List Char :=
  if c = '{' then [':'] else if c = '}' then [] else [c]

/-- The path that a template shows, with braces turned back into marks. -/
def unbraced (template : List Char) : List Char := template.flatMap unbracedChar

theorem unbraced_append (s t : List Char) : unbraced (s ++ t) = unbraced s ++ unbraced t :=
  List.flatMap_append

theorem unbraced_eq_self (s : List Char) (hopen : '{' ∉ s) (hclose : '}' ∉ s) : unbraced s = s := by
  induction s with
  | nil => rfl
  | cons c s ih =>
      rw [List.mem_cons, not_or] at hopen hclose
      have hc : unbracedChar c = [c] := by
        rw [unbracedChar, if_neg (Ne.symm hopen.1), if_neg (Ne.symm hclose.1)]
      rw [unbraced, List.flatMap_cons, hc]
      exact congrArg (c :: ·) (ih hopen.2 hclose.2)

/-- A parameter in braces reads as the mark that it stands for. -/
theorem unbraced_braced (name : List Char) (hopen : '{' ∉ name) (hclose : '}' ∉ name) :
    unbraced (braced name) = ':' :: name := by
  have hname := unbraced_eq_self name hopen hclose
  rw [unbraced] at hname
  simp [unbraced, braced, unbracedChar, hname]

end SwaggerGen.PathTemplate
