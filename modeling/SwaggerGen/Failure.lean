import SwaggerGen.Json.Fault

/-!
# Failures

What can go wrong outside of a conversion, which itself never fails: the files, and the input text.
-/

namespace SwaggerGen

/-- A failure to read or to write. -/
inductive IoFault where
  /-- The system refused; it gives a code, a kind and a text. -/
  | system (code : Nat) (kind text : String)
  /-- What was read is not UTF-8. -/
  | notText
  /-- Any other failure, by its text. -/
  | other (text : String)
  deriving DecidableEq, Repr

namespace IoFault

def isDirectory : IoFault := system 21 "IsADirectory" "Is a directory"

def notDirectory : IoFault := system 20 "NotADirectory" "Not a directory"

def nameTooLong : IoFault := system 36 "InvalidFilename" "File name too long"

def alreadyExists : IoFault := system 17 "AlreadyExists" "File exists"

def notFound : IoFault := system 2 "NotFound" "No such file or directory"

def noPermission : IoFault := system 13 "PermissionDenied" "Permission denied"

def ofCode? (code : Nat) : Option IoFault :=
  [isDirectory, notDirectory, alreadyExists, notFound, nameTooLong, noPermission].find? fun
    | system known _ _ => known == code
    | _ => false

def message : IoFault → String
  | system code _ text => text ++ " (os error " ++ toString code ++ ")"
  | notText => "stream did not contain valid UTF-8"
  | other text => text

def inspect : IoFault → String
  | system code kind text =>
      "Os \x7b code: " ++ toString code ++ ", kind: " ++ kind ++ ", message: " ++ Text.quoted text ++
        " \x7d"
  | notText =>
      "Error \x7b kind: InvalidData, message: \"stream did not contain valid UTF-8\" \x7d"
  | other text => "Custom \x7b kind: Other, error: " ++ Text.quoted text ++ " \x7d"

end IoFault

def Json.InputError.inspect (error : InputError) : String :=
  let place := error.position.getD ⟨0, 0⟩
  "Error(" ++ Text.quoted error.cause.message ++ ", line: " ++ toString place.line ++ ", column: " ++
    toString place.column ++ ")"

inductive Failure where
  | io (fault : IoFault)
  | json (error : Json.InputError)
  | general (text : String)
  deriving Repr

namespace Failure

def kind : Failure → String
  | io _ => "Io"
  | json _ => "Json"
  | general _ => "General"

def message : Failure → String
  | io fault => "IO Error: " ++ fault.message
  | json error => "JSON Error: " ++ error.message
  | general text => "General Error: " ++ text

def inspect : Failure → String
  | io fault => "Io(" ++ fault.inspect ++ ")"
  | json error => "Json(" ++ error.inspect ++ ")"
  | general text => "General(" ++ Text.quoted text ++ ")"

end Failure

end SwaggerGen
