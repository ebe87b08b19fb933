import SwaggerGen.Command.FileTree

/-!
# Hosts

What a program asks of the system that it runs on: looks at files, changes to them, and two streams for
what it prints and what it reports. A machine is such a system that is made of data.
-/

namespace SwaggerGen.Command

/-- A system to run on. What it may refuse to do gives a fault. -/
class Host (m : Type → Type) where
  contains : PathName → m Bool
  isDirectory : PathName → m Bool
  readFile : PathName → ExceptT IoFault m ByteArray
  makeDirectory : PathName → ExceptT IoFault m Unit
  writeFile : PathName → String → ExceptT IoFault m Unit
  print : String → m Unit
  report : String → m Unit

namespace Host

variable {m : Type → Type} [Monad m] [Host m]

/-- Makes sure that a path name leads to a directory: the one that is there, or a new one. -/
def ensureDirectory (path : PathName) : ExceptT IoFault m Unit := do
  try makeDirectory path
  catch fault => unless ← (isDirectory path : m Bool) do throw fault

/-- Makes sure that pieces, the last one first, lead to a directory. When the one above is missing, it is
made before, and what has been made stays. -/
def makeDirectories (absolute : Bool) : List String → ExceptT IoFault m Unit
  | [] => pure ()
  | piece :: above =>
      if PathName.isSilent absolute piece above then makeDirectories absolute above
      else do
        let path : PathName := ⟨absolute, (piece :: above).reverse⟩
        try ensureDirectory path
        catch fault =>
          if fault = .notFound then
            makeDirectories absolute above
            ensureDirectory path
          else throw fault

end Host

structure Machine (File : Type) where
  tree : FileTree File
  /-- All that has been printed. -/
  stdout : String
  /-- All that has been reported. -/
  stderr : String

namespace Machine

/-- What can be done to a machine, where faults are of the type `ε`. -/
abbrev Action (File ε α : Type) := ExceptT ε (StateM (Machine File)) α

variable {File : Type}

/-- Changes the files, unless that is refused. -/
def changeTree (change : FileTree File → Except IoFault (FileTree File)) :
    Action File IoFault Unit := do
  let machine ← get
  set { machine with tree := ← change machine.tree }

instance [Storage File] : Host (StateM (Machine File)) where
  contains path := return (← get).tree.contains path
  isDirectory path := return (← get).tree.leadsToDirectory path
  readFile path := do (← get).tree.read path
  makeDirectory path := changeTree (·.makeDirectory path)
  writeFile path text := changeTree (·.write path text)
  print text := modify fun machine => { machine with stdout := machine.stdout ++ text }
  report text := modify fun machine => { machine with stderr := machine.stderr ++ text }

end Machine

end SwaggerGen.Command
