/-!
# Path names

A path name is a row of pieces between slashes, from the root or from the working directory. Its
segments are the pieces that are followed; its components leave out the segments that change nothing.
-/

namespace SwaggerGen.Command

/-- A path name in its parts. -/
structure PathName where
  /-- Starts at the root. -/
  absolute : Bool
  /-- What stands between the slashes, behind the one for the root. -/
  pieces : List String
  deriving DecidableEq, Repr

namespace PathName

def ofText (text : String) : PathName :=
  match text.toList with
  | '/' :: rest => ⟨true, (rest.splitOn '/').map String.ofList⟩
  | s => ⟨false, (s.splitOn '/').map String.ofList⟩

def text (path : PathName) : String :=
  (if path.absolute then "/" else "") ++ "/".intercalate path.pieces

/-- Whether a path name is the empty text, which leads nowhere. -/
def isEmpty (path : PathName) : Bool := !path.absolute && path.pieces == [""]

def sizeLimit : Nat := 4095

/-- Whether a path name has too many bytes to be followed at all. -/
def isTooLong (path : PathName) : Bool := sizeLimit < path.text.utf8ByteSize

def segments (path : PathName) : List String := path.pieces.filter (· ≠ "")

/-- Whether a path name ends with a slash, so that only a directory is meant. -/
def asDirectory (path : PathName) : Bool := path.pieces.getLast? == some ""

/-- The segments that count: a dot only at the front of a relative path. -/
def components (path : PathName) : List String :=
  match path.absolute, path.segments with
  | false, "." :: rest => "." :: rest.filter (· ≠ ".")
  | _, segments => segments.filter (· ≠ ".")

/-- Whether a piece below others, the last one first, changes nothing about where a path name leads: an
empty one does not, nor does a dot unless a relative path starts with it. -/
def isSilent (absolute : Bool) (piece : String) (above : List String) : Bool :=
  piece == "" || (piece == "." && (absolute || !above.isEmpty))

/-- Pieces, the last one first, from the last component on. -/
def fromComponent (absolute : Bool) : List String → List String
  | [] => []
  | piece :: above =>
      if isSilent absolute piece above then fromComponent absolute above else piece :: above

/-- The path name of the directory that the last component stands in. There is none when that is the
root or the working directory. -/
def parent? (path : PathName) : Option PathName :=
  match fromComponent path.absolute path.pieces.reverse with
  | [] => none
  | _ :: above =>
      match fromComponent path.absolute above with
      | [] => none
      | pieces => some ⟨path.absolute, pieces.reverse⟩

/-- Whether the path name stands for standard input. -/
def isDash (path : PathName) : Bool := !path.absolute && path.components == ["-"]

/-- What follows the last dot of a file name that has something before it. -/
def extension? (path : PathName) : Option String :=
  match path.components.getLast? with
  | none => none
  | some name =>
      if name = "." ∨ name = ".." then none
      else
        let reversed := name.toList.reverse
        match reversed.dropWhile (· != '.') with
        | _ :: _ :: _ => some (String.ofList (reversed.takeWhile (· != '.')).reverse)
        | _ => none

end PathName

end SwaggerGen.Command
