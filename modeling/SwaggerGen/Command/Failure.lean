import SwaggerGen.Failure

/-!
# Failures of the command

The command fails by itself or passes on a failure around the conversion.
-/

namespace SwaggerGen.Command

inductive Failure where
  | io (fault : IoFault)
  | core (failure : SwaggerGen.Failure)
  | general (text : String)
  deriving Repr

namespace Failure

/-- The message of a failure; what is passed on keeps its own. -/
def message : Failure → String
  | io fault => "IO Error: " ++ fault.message
  | core failure => failure.message
  | general text => "Operation failed: " ++ text

/-- The failure with its particulars, as it is reported at the end of a run. -/
def inspect : Failure → String
  | io fault => "Io(" ++ fault.inspect ++ ")"
  | core failure => "Core(" ++ failure.inspect ++ ")"
  | general text => "General(" ++ Text.quoted text ++ ")"

end Failure

end SwaggerGen.Command
