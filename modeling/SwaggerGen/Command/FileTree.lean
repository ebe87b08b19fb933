import SwaggerGen.Command.PathName
import SwaggerGen.Failure

/-!
# File trees

The files that a run can see, by their places under the root, with the directories around them and the
working directory. Path names are followed segment by segment, each inside a directory. What a file is
made of is left open: a system keeps it, and may refuse to read it or to write it.
-/

namespace SwaggerGen.Command

/-- A place: the names on the way from the root. -/
abbrev Place := List String

/-- What the system is asked for at a place. -/
inductive Access where
  | enter
  | read
  | write
  | makeDirectory
  deriving DecidableEq, Repr

/-- How a system keeps files. -/
class Storage (File : Type) where
  /-- The bytes of a file. -/
  bytes : File → ByteArray
  /-- The file with a text for its bytes, which takes the place of another one or of none. -/
  store : Option File → String → File
  /-- Why an access is refused at a place, where there may be a file. -/
  refusal? : Access → Place → Option File → Option IoFault
  bytes_store : ∀ (old : Option File) (text : String), bytes (store old text) = text.toUTF8

/-- Files that are nothing but bytes, all of them open to all. -/
instance : Storage ByteArray where
  bytes := id
  store _ text := text.toUTF8
  refusal? _ _ _ := none
  bytes_store _ _ := rfl

/-- Files by their places, and directories. -/
structure FileTree (File : Type) where
  files : List (Place × File)
  directories : List Place
  workingDirectory : Place
  deriving Repr

namespace FileTree

variable {File : Type}

def file? (tree : FileTree File) (place : Place) : Option File := tree.files.lookup place

/-- Whether there is a directory at a place: the root, a listed one, or one on the way to a file or
to a listed directory. -/
def isDirectory (tree : FileTree File) (place : Place) : Bool :=
  place.isEmpty || place.isPrefixOf tree.workingDirectory ||
    tree.directories.any place.isPrefixOf ||
    tree.files.any fun file => place.isPrefixOf file.1 && place != file.1

def holds (tree : FileTree File) (place : Place) : Bool :=
  tree.isDirectory place || (tree.file? place).isSome

variable [Storage File]

def permit (tree : FileTree File) (access : Access) (place : Place) : Except IoFault Unit :=
  match Storage.refusal? access place (tree.file? place) with
  | some fault => .error fault
  | none => .ok ()

/-- Makes sure that there is a directory at a place, and that it may be entered. -/
def requireDirectory (tree : FileTree File) (place : Place) : Except IoFault Unit :=
  if (tree.file? place).isSome then .error .notDirectory
  else if tree.isDirectory place then tree.permit .enter place
  else .error .notFound

def nameLimit : Nat := 255

def enter (tree : FileTree File) (place : Place) (segment : String) : Except IoFault Place := do
  tree.requireDirectory place
  if segment = "." then .ok place
  else if segment = ".." then .ok place.dropLast
  else if nameLimit < segment.utf8ByteSize then .error .nameTooLong
  else .ok (place ++ [segment])

/-- The place that segments lead to; nothing has to be there yet. -/
def follow (tree : FileTree File) (start : Place) (segments : List String) : Except IoFault Place :=
  segments.foldlM tree.enter start

def start (tree : FileTree File) (path : PathName) : Place :=
  if path.absolute then [] else tree.workingDirectory

/-- The place that a path name leads to; nothing has to be there yet. -/
def locate (tree : FileTree File) (path : PathName) : Except IoFault Place :=
  if path.isEmpty then .error .notFound
  else if path.isTooLong then .error .nameTooLong else tree.follow (tree.start path) path.segments

def contains (tree : FileTree File) (path : PathName) : Bool :=
  match tree.locate path with
  | .error _ => false
  | .ok place => tree.isDirectory place || ((tree.file? place).isSome && !path.asDirectory)

/-- Whether a path name leads to a directory. -/
def leadsToDirectory (tree : FileTree File) (path : PathName) : Bool :=
  match tree.locate path with
  | .error _ => false
  | .ok place => tree.isDirectory place

def read (tree : FileTree File) (path : PathName) : Except IoFault ByteArray := do
  let place ← tree.locate path
  match tree.file? place with
  | some file =>
      if path.asDirectory then .error .notDirectory
      else do
        tree.permit .read place
        .ok (Storage.bytes file)
  | none => .error (if tree.isDirectory place then .isDirectory else .notFound)

def isDots (segment : String) : Bool := segment = "." || segment = ".."

/-- Makes the directory that a path name leads to. The one above has to be there. -/
def makeDirectory (tree : FileTree File) (path : PathName) : Except IoFault (FileTree File) :=
  if path.isEmpty then .error .notFound
  else if path.isTooLong then .error .nameTooLong
  else
    match path.segments.reverse with
    | [] => .error .alreadyExists
    | name :: above => do
        let parent ← tree.follow (tree.start path) above.reverse
        let place ← tree.enter parent name
        if isDots name || tree.holds place then .error .alreadyExists
        else do
          tree.permit .makeDirectory place
          .ok { tree with directories := place :: tree.directories }

def putEntry (place : Place) (file : File) : List (Place × File) → List (Place × File)
  | [] => [(place, file)]
  | (other, old) :: rest =>
      if other = place then (place, file) :: rest else (other, old) :: putEntry place file rest

def put (tree : FileTree File) (place : Place) (text : String) : FileTree File :=
  { tree with files := putEntry place (Storage.store (tree.file? place) text) tree.files }

/-- The place of the file that a path name leads to, for a text to be written there. The file need not be
there, but its directory has to be. -/
def writable (tree : FileTree File) (path : PathName) : Except IoFault Place :=
  if path.isEmpty then .error .notFound
  else if path.isTooLong then .error .nameTooLong
  else
    match path.segments.reverse with
    | [] => .error .isDirectory
    | name :: above => do
        let parent ← tree.follow (tree.start path) above.reverse
        tree.requireDirectory parent
        if isDots name || path.asDirectory then .error .isDirectory
        else
          let place ← tree.enter parent name
          if tree.isDirectory place then .error .isDirectory
          else do
            tree.permit .write place
            .ok place

def write (tree : FileTree File) (path : PathName) (text : String) :
    Except IoFault (FileTree File) :=
  (tree.writable path).map (tree.put · text)

omit [Storage File] in
theorem lookup_putEntry (place other : Place) (file : File) (files : List (Place × File)) :
    (putEntry place file files).lookup other =
      if other = place then some file else files.lookup other := by
  induction files with
  | nil =>
      by_cases h : other = place
      · simp [putEntry, h]
      · have hb : (other == place) = false := by simpa using h
        simp [putEntry, List.lookup_cons, h, hb]
  | cons entry rest ih =>
      obtain ⟨p, old⟩ := entry
      by_cases hp : p = place
      · subst hp
        by_cases h : other = p
        · simp [putEntry, h]
        · have hb : (other == p) = false := by simpa using h
          simp [putEntry, List.lookup_cons, h, hb]
      · by_cases h : other = p
        · subst h
          simp [putEntry, hp]
        · have hb : (other == p) = false := by simpa using h
          simp [putEntry, hp, List.lookup_cons, hb, ih]

theorem file?_put (tree : FileTree File) (place other : Place) (text : String) :
    (tree.put place text).file? other =
      if other = place then some (Storage.store (tree.file? place) text) else tree.file? other :=
  lookup_putEntry place other _ tree.files

end FileTree

end SwaggerGen.Command
