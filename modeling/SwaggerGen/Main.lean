import SwaggerGen.Command.Generate

/-!
# The program

The system as a host, and the program on it, with the arguments, the environment and standard input that
the system gives.
-/

namespace SwaggerGen.Command

def plainCode (code : UInt32) : Nat :=
  if code.toNat < Nat.pow 2 31 then code.toNat else Nat.pow 2 32 - code.toNat

/-- The code of an error of the system, if it has one. -/
def codeOf : IO.Error → Nat
  | .noFileOrDirectory _ code _ => plainCode code
  | .inappropriateType _ code _ => plainCode code
  | .permissionDenied _ code _ => plainCode code
  | .alreadyExists _ code _ => plainCode code
  | .invalidArgument _ code _ => plainCode code
  | .noSuchThing _ code _ => plainCode code
  | _ => 0

def faultOf (error : IO.Error) : IoFault :=
  (IoFault.ofCode? (codeOf error)).getD (.other (toString error))

/-- An action of the system, with its error as a fault. -/
def attempt {α : Type} (action : IO α) : ExceptT IoFault IO α := ExceptT.mk do
  try return .ok (← action)
  catch error => return .error (faultOf error)

/-- Reads a stream to its end, behind what has been read. -/
partial def readAll (stream : IO.FS.Stream) (seen : ByteArray) : IO ByteArray := do
  let chunk ← stream.read 65536
  if chunk.isEmpty then return seen else readAll stream (seen ++ chunk)

instance : Host IO where
  contains path := do
    try (← IO.FS.realPath path.text).pathExists
    catch _ => return false
  isDirectory path := do
    try (← IO.FS.realPath path.text).isDir
    catch _ => return false
  readFile path := attempt (IO.FS.readBinFile path.text)
  makeDirectory path := attempt (IO.FS.createDir path.text)
  writeFile path text := attempt (IO.FS.writeFile path.text text)
  print := IO.print
  report := IO.eprint

end SwaggerGen.Command

open SwaggerGen.Command in
def main (arguments : List String) : IO UInt32 := do
  let settings ← environmentNames.filterMapM fun name => do
    return (← IO.getEnv name).map (name, ·)
  let stdin := attempt do readAll (← IO.getStdin) .empty
  return (← program (settings.lookup ·) arguments stdin).toUInt32
