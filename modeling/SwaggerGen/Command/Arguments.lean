import SwaggerGen.Text.Styled

/-!
# Command line arguments

The program has one command, `generate`, with three options; each may also come from the environment.
Arguments are taken from left to right. The value of an option is looked at when the next option or the
end of the arguments is reached, and an argument that nobody knows is refused at once.
-/

namespace SwaggerGen.Command

inductive OutputFormat where
  | json
  | yaml
  deriving DecidableEq, Repr

def OutputFormat.ofText? (word : String) : Option OutputFormat :=
  if word = "json" then some json else if word = "yaml" then some yaml else none

/-- An option of the command. -/
inductive Setting where
  | input
  | output
  | format
  deriving DecidableEq, Repr

namespace Setting

def all : List Setting := [input, output, format]

def word : Setting → String
  | input => "input"
  | output => "output"
  | format => "format"

def ofWord? (word : String) : Option Setting := all.find? (·.word == word)

def environmentName : Setting → String
  | input => "APISWAG_INPUT"
  | output => "APISWAG_OUTPUT"
  | format => "APISWAG_FORMAT"

def usage : Setting → String
  | input => "--input <INPUT>"
  | output => "--output <OUTPUT>"
  | format => "--format <FORMAT>"

def accepts (setting : Setting) (value : String) : Bool :=
  match setting with
  | format => (OutputFormat.ofText? value).isSome
  | _ => true

end Setting

/-- What is wrong with the arguments. -/
inductive UsageError where
  | noCommand
  | unknownCommand (word : String)
  | unexpectedArgument (argument : String)
  | unexpectedValue (value flag : String)
  | missingValue (setting : Setting)
  | badValue (setting : Setting) (value : String)
  | repeated (setting : Setting)
  deriving DecidableEq, Repr

def errorMark : Text.Piece := ⟨.alarm, "error:"⟩

def UsageError.message : UsageError → List Text.Piece
  | noCommand => ["API description to Swagger 2.0 converter"]
  | unknownCommand word => [errorMark, " unrecognized subcommand '", ⟨.wrong, word⟩, "'"]
  | unexpectedArgument argument => [errorMark, " unexpected argument '", ⟨.wrong, argument⟩, "' found"]
  | unexpectedValue value flag =>
      [errorMark, " unexpected value '", ⟨.wrong, value⟩, "' for '", ⟨.verbatim, flag⟩,
        "' found; no more were expected"]
  | missingValue setting =>
      [errorMark, " a value is required for '", ⟨.wrong, setting.usage⟩, "' but none was supplied"]
  | badValue setting value =>
      [errorMark, " invalid value '", ⟨.wrong, value⟩, "' for '", ⟨.verbatim, setting.usage⟩, "'"]
  | repeated setting =>
      [errorMark, " the argument '", ⟨.wrong, setting.usage⟩, "' cannot be used multiple times"]

/-- The values of the options that were given. -/
abbrev Settings := Setting → Option String

def Settings.none : Settings := fun _ => Option.none

def Settings.set (settings : Settings) (setting : Setting) (value : String) : Settings :=
  fun other => if other = setting then some value else settings other

def checkedValue (setting : Setting) (value : String) : Except UsageError String :=
  if value = "" then .error (.missingValue setting)
  else if setting.accepts value then .ok value
  else .error (.badValue setting value)

/-- Gives an option a value that stands among the arguments; only the first one is taken. -/
def Settings.give (settings : Settings) (setting : Setting) (value : String) :
    Except UsageError Settings :=
  if (settings setting).isSome then .error (.repeated setting)
  else (checkedValue setting value).map (settings.set setting)

/-- An option that has been named, and its value once that has been seen. -/
abbrev Pending := Option (Setting × Option String)

def Settings.resolve (settings : Settings) : Pending → Except UsageError Settings
  | Option.none => .ok settings
  | some (setting, Option.none) => .error (.missingValue setting)
  | some (setting, some value) => settings.give setting value

/-- An argument by its form. -/
inductive Argument where
  | separator
  | long (word : String) (value : Option String)
  | short (letter : Char)
  | word (text : String)
  deriving DecidableEq, Repr

/-- The form of an argument. A single dash is a word; of short flags the first one counts. -/
def Argument.ofText (text : String) : Argument :=
  match text.toList with
  | ['-', '-'] => separator
  | '-' :: '-' :: rest =>
      let name := String.ofList (rest.takeWhile (· != '='))
      match rest.dropWhile (· != '=') with
      | [] => long name none
      | _ :: value => long name (some (String.ofList value))
  | '-' :: letter :: _ => short letter
  | _ => word text

/-- Takes the arguments behind the command: the options, or nothing when help is asked for. -/
def takeSettings (settings : Settings) (pending : Pending) :
    List String → Except UsageError (Option Settings)
  | [] => (settings.resolve pending).map some
  | argument :: rest =>
      match Argument.ofText argument with
      | .separator =>
          match rest with
          | [] => (settings.resolve pending).map some
          | extra :: _ => .error (.unexpectedArgument extra)
      | .word text =>
          match pending with
          | some (setting, none) => takeSettings settings (some (setting, some text)) rest
          | _ => .error (.unexpectedArgument text)
      | .short letter =>
          if letter = 'h' then (settings.resolve pending).map fun _ => none
          else .error (.unexpectedArgument (String.ofList ['-', letter]))
      | .long word value =>
          if word = "help" then
            match value with
            | some value => .error (.unexpectedValue value "--help")
            | none => (settings.resolve pending).map fun _ => none
          else
            match Setting.ofWord? word with
            | none => .error (.unexpectedArgument ("--" ++ word))
            | some setting => do
                let settings ← settings.resolve pending
                match value with
                | none => takeSettings settings (some (setting, none)) rest
                | some value => takeSettings (← settings.give setting value) none rest

/-- What a run is asked to do. -/
structure Request where
  input : Option String
  output : Option String
  format : Option OutputFormat
  deriving DecidableEq, Repr

/-- Asks the environment for the options that were not given. -/
def withEnvironment (environment : String → Option String) (settings : Settings) :
    List Setting → Except UsageError Settings
  | [] => .ok settings
  | setting :: rest => do
      match settings setting, environment setting.environmentName with
      | none, some value =>
          let value ← checkedValue setting value
          withEnvironment environment (settings.set setting value) rest
      | _, _ => withEnvironment environment settings rest

def Settings.request (settings : Settings) : Request :=
  ⟨settings .input, settings .output, (settings .format).bind OutputFormat.ofText?⟩

/-- What the arguments ask for. -/
inductive Invocation where
  | version
  | help
  | generateHelp
  | generate (request : Request)
  deriving DecidableEq, Repr

def takeGenerate (environment : String → Option String) (arguments : List String) :
    Except UsageError Invocation := do
  match ← takeSettings Settings.none none arguments with
  | none => .ok .generateHelp
  | some settings =>
      let settings ← withEnvironment environment settings Setting.all
      .ok (.generate settings.request)

def takeHelp : List String → Except UsageError Invocation
  | [] => .ok .help
  | ["generate"] => .ok .generateHelp
  | ["help"] => .ok .help
  | "generate" :: word :: _ => .error (.unknownCommand word)
  | "help" :: word :: _ => .error (.unknownCommand word)
  | word :: _ => .error (.unknownCommand word)

def Invocation.ofArguments (environment : String → Option String) :
    List String → Except UsageError Invocation
  | [] => .error .noCommand
  | argument :: rest =>
      match Argument.ofText argument with
      | .separator =>
          match rest with
          | [] => .error .noCommand
          | word :: _ =>
              if word = "generate" ∨ word = "help" then .error (.unexpectedArgument word)
              else .error (.unknownCommand word)
      | .word text =>
          if text = "generate" then takeGenerate environment rest
          else if text = "help" then takeHelp rest
          else .error (.unknownCommand text)
      | .short letter =>
          if letter = 'h' then .ok .help
          else if letter = 'V' then .ok .version
          else .error (.unexpectedArgument (String.ofList ['-', letter]))
      | .long word value =>
          if word = "help" ∨ word = "version" then
            match value with
            | some value => .error (.unexpectedValue value ("--" ++ word))
            | none => .ok (if word = "help" then .help else .version)
          else .error (.unexpectedArgument ("--" ++ word))

end SwaggerGen.Command
