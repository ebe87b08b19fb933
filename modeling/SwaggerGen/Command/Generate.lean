import SwaggerGen.Command.Arguments
import SwaggerGen.Command.Failure
import SwaggerGen.Command.Host
import SwaggerGen.Description.Formats
import SwaggerGen.Document.Build
import SwaggerGen.Log.Directive

/-!
# The generate command

Reads a description from a file or from standard input, and writes its document to a file or to standard
output. The document is rendered in full before anything is written.
-/

namespace SwaggerGen.Command

def versionText : String := "apiswag-cli 0.1.0\n"

def helpText : String :=
  "API description to Swagger 2.0 converter\n\n" ++
  "Usage: apiswag <COMMAND>\n\n" ++
  "Commands:\n" ++
  "  generate  Convert an IR document into a Swagger 2.0 document\n" ++
  "  help      Print this message or the help of the given subcommand(s)\n\n" ++
  "Options:\n" ++
  "  -h, --help     Print help\n" ++
  "  -V, --version  Print version\n"

def generateHelpText : String :=
  "Convert an IR document into a Swagger 2.0 document\n\n" ++
  "Usage: apiswag generate [OPTIONS]\n\n" ++
  "Options:\n" ++
  "      --input <INPUT>    Path to the IR JSON document. `-` or absent reads stdin\n" ++
  "      --output <OUTPUT>  Output path for the Swagger document. Absent prints to stdout\n" ++
  "      --format <FORMAT>  Output encoding. Defaults to the output extension, else JSON\n" ++
  "  -h, --help             Print help\n"

def Failure.report (failure : Failure) : String := "Error: " ++ failure.inspect ++ "\n"

/-- The text that bytes encode. -/
def decodeText (bytes : ByteArray) : Except IoFault String :=
  match String.fromUTF8? bytes with
  | some text => .ok text
  | none => .error .notText

def textOf {m : Type → Type} [Monad m] (bytes : ExceptT IoFault m ByteArray) :
    ExceptT Failure m String :=
  ExceptT.adapt .io do decodeText (← bytes)

def OutputFormat.render (format : OutputFormat) (document : Document) : String :=
  match format with
  | .json => document.toPrettyJson
  | .yaml => document.toYaml

namespace Request

/-- The file that the description is read from; none for standard input. -/
def inputFile? (request : Request) : Option PathName :=
  (request.input.map PathName.ofText).filter (!·.isDash)

def outputFile? (request : Request) : Option PathName := request.output.map PathName.ofText

/-- The format that is asked for, or else the one that the name of the output file tells. -/
def resolvedFormat (request : Request) : OutputFormat :=
  match request.format with
  | some format => format
  | none =>
      match request.outputFile?.bind PathName.extension? with
      | some "yaml" => .yaml
      | some "yml" => .yaml
      | _ => .json

/-- The failure of a missing input file. -/
def missingInput (request : Request) : Failure :=
  .general ("Input file not found: " ++ Text.quoted (request.input.getD ""))

def render (request : Request) (text : String) : Except Failure String :=
  match Api.parse text with
  | .error error => .error (.core (.json error))
  | .ok api => .ok (request.resolvedFormat.render api.document)

section Host

variable {m : Type → Type} [Monad m] [Host m]

/-- The text of the description, where standard input holds the given bytes. -/
def readInput (request : Request) (stdin : ExceptT IoFault m ByteArray) : ExceptT Failure m String :=
  match request.inputFile? with
  | none => textOf stdin
  | some path => do
      unless ← (Host.contains path : m Bool) do throw request.missingInput
      textOf (Host.readFile path)

/-- Makes the directory of an output file if it is missing. -/
def prepare (path : PathName) : ExceptT IoFault m Unit :=
  match path.parent? with
  | none => pure ()
  | some parent => do
      unless ← (Host.contains parent : m Bool) do
        Host.makeDirectories parent.absolute parent.pieces.reverse

/-- Writes a text to a file, in a directory that is made if it is missing. -/
def writeOut (path : PathName) (text : String) : ExceptT IoFault m Unit := do
  prepare path
  Host.writeFile path text

def deliver (request : Request) (rendered : String) : ExceptT Failure m Unit :=
  match request.outputFile? with
  | none => ExceptT.lift (Host.print (rendered ++ "\n"))
  | some path => (writeOut path rendered).adapt .io

def execute (request : Request) (stdin : ExceptT IoFault m ByteArray) : ExceptT Failure m Unit := do
  let text ← request.readInput stdin
  let rendered ← request.render text
  request.deliver rendered

/-- Carries out a request and reports its failure; gives the exit code. -/
def perform (request : Request) (stdin : ExceptT IoFault m ByteArray) : m Nat := do
  match ← (request.execute stdin).run with
  | .ok () => return 0
  | .error failure =>
      Host.report failure.report
      return 1

end Host

end Request

/-- The report on wrong arguments, with its styles shown or not. -/
def UsageError.report (coloured : Bool) : UsageError → String
  | noCommand => helpText
  | error => Text.writtenPieces coloured error.message ++ "\n\nFor more information, try '--help'.\n"

def logFilterName : String := "RUST_LOG"

def styleName : String := "CLICOLOR_FORCE"

def noStyleName : String := "NO_COLOR"

/-- Whether the environment asks for styles where there is no terminal, and does not forbid them. -/
def showsStyles (environment : String → Option String) : Bool :=
  let given (name : String) := (environment name).any (· != "")
  given styleName && !given noStyleName

def environmentNames : List String :=
  Setting.all.map Setting.environmentName ++ [logFilterName, styleName, noStyleName]

/-- The reports on the log filter, which come before anything else is looked at. -/
def logNotices (environment : String → Option String) : String :=
  ((environment logFilterName).map Log.notices).getD ""

/-- The program; gives the exit code. -/
def program {m : Type → Type} [Monad m] [Host m] (environment : String → Option String)
    (arguments : List String) (stdin : ExceptT IoFault m ByteArray) : m Nat := do
  Host.report (logNotices environment)
  match Invocation.ofArguments environment arguments with
  | .error error =>
      Host.report (error.report (showsStyles environment))
      return 2
  | .ok .version =>
      Host.print versionText
      return 0
  | .ok .help =>
      Host.print helpText
      return 0
  | .ok .generateHelp =>
      Host.print generateHelpText
      return 0
  | .ok (.generate request) => request.perform stdin

/-- What a run leaves behind. -/
structure Outcome (File : Type) where
  code : Nat
  stdout : String
  stderr : String
  tree : FileTree File

section Run

variable {File : Type}

/-- What an action that gives an exit code leaves behind on a machine. -/
def Outcome.ofAction (action : StateM (Machine File) Nat) (machine : Machine File) : Outcome File :=
  let (code, machine) := action.run machine
  ⟨code, machine.stdout, machine.stderr, machine.tree⟩

variable [Storage File]

/-- What carrying out a request leaves behind. -/
def Request.outcome (request : Request) (stdin : ByteArray) (tree : FileTree File) : Outcome File :=
  .ofAction (request.perform (pure stdin)) ⟨tree, "", ""⟩

/-- What a run of the program leaves behind. -/
def run (environment : String → Option String) (arguments : List String) (stdin : ByteArray)
    (tree : FileTree File) : Outcome File :=
  .ofAction (program environment arguments (pure stdin)) ⟨tree, "", ""⟩

end Run

end SwaggerGen.Command
