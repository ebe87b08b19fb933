/-!
# Control characters in reports

A report on the arguments repeats what was given, but sends no controls to a terminal: control characters
other than blanks are left out, and an escape character goes together with the sequence that it begins.

A blank inside of a sequence is shown, and so is the text behind it up to the next control character; only
then does the sequence go on. A character beyond ASCII in such a text ends the sequence.
-/

namespace SwaggerGen.Text

/-- Which part of an escape sequence comes next, if any. -/
inductive ControlState where
  | plain
  | afterEscape
  | intermediate
  /-- Inside of a control sequence. -/
  | parameters
  /-- Inside of a system command, which a bell ends. -/
  | command
  /-- At the front of a device string, behind its parameters, and behind its intermediates. -/
  | deviceFront
  | deviceParameters
  | deviceIntermediate
  /-- Inside of any other string. -/
  | string
  deriving DecidableEq, Repr

namespace ControlState

/-- The state behind an escape character and the first character of its sequence. -/
def ofIntroducer (c : Char) : ControlState :=
  if c = '[' then parameters
  else if c = ']' then command
  else if c = 'P' then deviceFront
  else if c = 'X' ∨ c = '^' ∨ c = '_' then string
  else if ' ' ≤ c ∧ c ≤ '/' then intermediate
  else if '0' ≤ c ∧ c ≤ '~' then plain
  else afterEscape

def endsString (c : Char) : Bool := (String.utf8EncodeChar c).contains 0x9c

/-- The state behind a character that is not a control character. -/
def next (state : ControlState) (c : Char) : ControlState :=
  match state with
  | plain => plain
  | afterEscape => ofIntroducer c
  | intermediate => if '0' ≤ c ∧ c ≤ '~' then plain else intermediate
  | parameters => if '@' ≤ c ∧ c ≤ '~' then plain else parameters
  | command => command
  | deviceFront =>
      if ' ' ≤ c ∧ c ≤ '/' then deviceIntermediate
      else if '0' ≤ c ∧ c ≤ '?' then deviceParameters
      else if '@' ≤ c ∧ c ≤ '~' then string
      else deviceFront
  | deviceParameters =>
      if ' ' ≤ c ∧ c ≤ '/' then deviceIntermediate
      else if '<' ≤ c ∧ c ≤ '~' then string
      else deviceParameters
  | deviceIntermediate => if '0' ≤ c ∧ c ≤ '~' then string else deviceIntermediate
  | string => if endsString c then plain else string

/-- Whether a sequence takes in the blanks inside of it. -/
def takesBlanks : ControlState → Bool
  | plain | afterEscape | intermediate | parameters => false
  | command | deviceFront | deviceParameters | deviceIntermediate | string => true

/-- The state behind a control character that begins nothing. -/
def behindControl (state : ControlState) (c : Char) : ControlState :=
  if c = '\x18' ∨ c = '\x1a' ∨ (c = '\x07' ∧ state = command) then plain else state

end ControlState

/-- An ASCII control character. -/
def isControl (c : Char) : Bool := c < ' ' || c == '\x7f'

/-- A control character that a report may hold. -/
def isControlBlank (c : Char) : Bool := c == '\t' || c == '\n' || c == '\x0c' || c == '\r'

/-- The characters that are left of a text, from a state on. The flag tells that the text is shown although
a sequence is open. -/
def withoutControls (shown : Bool) (state : ControlState) : List Char → List Char
  | [] => []
  | c :: rest =>
      if c = '\x1b' then withoutControls false .afterEscape rest
      else if isControl c then
        if isControlBlank c && !state.takesBlanks then c :: withoutControls true state rest
        else withoutControls false (state.behindControl c) rest
      else if shown || state = .plain then
        c :: withoutControls true (if c ≤ '~' then state else .plain) rest
      else withoutControls false (state.next c) rest

def dropControls (s : String) : String := String.ofList (withoutControls true .plain s.toList)

end SwaggerGen.Text
