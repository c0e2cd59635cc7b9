/-!
# Arguments

The command line asks for a check of some paths, for help or for the version.  Arguments are
looked at from left to right, and the first that settles the matter, or is wrong, ends the
search.
-/

namespace SheetCheck.Command

/-- How failures are reported. -/
inductive Format where
  /-- A report with the source. -/
  | human
  /-- A trace of the imports. -/
  | trace
  /-- One JSON object per file. -/
  | json
deriving DecidableEq, Repr

/-- The format with a name. -/
def Format.ofName? (name : String) : Option Format :=
  [("human", human), ("trace", trace), ("json", json)].lookup name

/-- What a check is asked to do. -/
structure Options where
  paths : List String
  format : Format
  /-- The file named in traces for nodes without one. -/
  defaultFilename : String
  verbose : Bool
deriving DecidableEq, Repr

/-- What can be wrong with the arguments. -/
inductive Misuse where
  | commandMissing
  | unknownCommand (name : String)
  | unknownArgument (arg : String)
  | repeated (option : String)
  | valueMissing (option : String)
  | valueUnneeded (option : String)
  | badValue (option value : String)
  | emptyPath
  | pathMissing
deriving DecidableEq, Repr

namespace Misuse

/-- The words for a misuse. -/
def message : Misuse → String
  | commandMissing => "a command is required"
  | unknownCommand name => s!"unrecognized command '{name}'"
  | unknownArgument arg => s!"unexpected argument '{arg}'"
  | repeated option => s!"the argument '{option}' cannot be used more than once"
  | valueMissing option => s!"a value is required for '{option}'"
  | valueUnneeded option => s!"'{option}' takes no value"
  | badValue option value => s!"invalid value '{value}' for '{option}'"
  | emptyPath => "a path must not be empty"
  | pathMissing => "a path is required"

end Misuse

/-- Why there is nothing to check. -/
inductive Ending where
  | help
  | version
  | misuse (m : Misuse)
deriving DecidableEq, Repr

/-- The shape of an argument. -/
inductive Shape where
  /-- `--name` or `--name=value` -/
  | long (name : String) (value : Option String)
  /-- `-xyz`, letter by letter -/
  | short (letters : List Char)
  /-- `--` -/
  | separator
  | plain

/-- The shape of an argument; a lone dash is plain. -/
def Shape.of (arg : String) : Shape :=
  match arg.toList with
  | ['-', '-'] => separator
  | '-' :: '-' :: cs =>
    let (name, value) := cs.span (· ≠ '=')
    match value with
    | [] => long (String.ofList name) none
    | _ :: value => long (String.ofList name) (some (String.ofList value))
  | '-' :: c :: cs => short (c :: cs)
  | _ => plain

/-- Arguments after `help` name a command, which needs none to help with in turn. -/
def helpOn : List String → Ending
  | [] => .help
  | [name] => if name ∈ ["check", "help"] then .help else .misuse (.unknownCommand name)
  | first :: second :: _ =>
    .misuse (.unknownCommand (if first ∈ ["check", "help"] then second else first))

/-- Takes the flag for verbose output, which may be given once. -/
def setVerbose (verbose : Bool) (option : String) : Except Ending Bool :=
  if verbose then .error (.misuse (.repeated option)) else .ok true

/-- A flag without a value. -/
def bare (option : String) (value : Option String) : Except Ending Unit :=
  if value.isSome then .error (.misuse (.valueUnneeded option)) else .ok ()

/-- Takes letters of an argument such as `-vh`, of which `V` asks for the version only where
`hasVersion`. -/
def letters (hasVersion : Bool) (verbose : Bool) : List Char → Except Ending Bool
  | [] => .ok verbose
  | 'v' :: cs => do letters hasVersion (← setVerbose verbose "-v") cs
  | 'h' :: _ => .error .help
  | c :: _ =>
    if c = 'V' ∧ hasVersion then .error .version
    else .error (.misuse (.unknownArgument (String.ofList ['-', c])))

/-- The arguments of a check that have been met, the paths in reverse. -/
structure Draft where
  paths : List String
  format : Option Format
  defaultFilename : Option String
  verbose : Bool

namespace Draft

/-- Adds a path. -/
def addPath (d : Draft) (path : String) : Except Ending Draft :=
  if path = "" then .error (.misuse .emptyPath) else .ok { d with paths := path :: d.paths }

/-- Adds an option with its value. -/
def addOption (d : Draft) (name value : String) : Except Ending Draft :=
  if name = "format" then
    match d.format, Format.ofName? value with
    | some _, _ => .error (.misuse (.repeated "--format"))
    | none, none => .error (.misuse (.badValue "--format" value))
    | none, some format => .ok { d with format := some format }
  else
    match d.defaultFilename with
    | some _ => .error (.misuse (.repeated "--default-filename"))
    | none => .ok { d with defaultFilename := some value }

/-- The options of a check; `verbose` tells whether the flag stood before the command. -/
def finish (d : Draft) (verbose : Bool) : Except Ending Options :=
  match d.paths with
  | [] => .error (.misuse .pathMissing)
  | paths =>
    .ok ⟨paths.reverse, d.format.getD .human, d.defaultFilename.getD "an unknown file",
      verbose || d.verbose⟩

end Draft

/-- Whether an option of a check takes a value. -/
def takesValue (name : String) : Bool :=
  name ∈ ["format", "default-filename"]

/-- Whether an argument can be the value of the option before it. -/
def canBeValue (arg : String) : Bool :=
  match Shape.of arg with
  | .plain => true
  | _ => false

/-- Looks at the arguments behind `check`. -/
def checkArguments (d : Draft) : List String → Except Ending Draft
  | [] => .ok d
  | arg :: rest =>
    match Shape.of arg with
    | .separator => rest.foldlM Draft.addPath d
    | .plain => do checkArguments (← d.addPath arg) rest
    | .short cs => do
      let verbose ← letters false d.verbose cs
      checkArguments { d with verbose } rest
    | .long name value =>
      if takesValue name then
        match value, rest with
        | some value, rest => do checkArguments (← d.addOption name value) rest
        | none, value :: rest => do
          if canBeValue value then checkArguments (← d.addOption name value) rest
          else .error (.misuse (.valueMissing arg))
        | none, [] => .error (.misuse (.valueMissing arg))
      else if name = "verbose" then do
        bare arg value
        let verbose ← setVerbose d.verbose arg
        checkArguments { d with verbose } rest
      else if name = "help" then do
        bare arg value
        .error .help
      else .error (.misuse (.unknownArgument arg))

/-- Looks at all arguments. -/
def arguments (verbose : Bool) : List String → Except Ending Options
  | [] => .error (.misuse .commandMissing)
  | arg :: rest =>
    match Shape.of arg with
    | .plain =>
      if arg = "check" then do (← checkArguments ⟨[], none, none, false⟩ rest).finish verbose
      else if arg = "help" then .error (helpOn rest)
      else .error (.misuse (.unknownCommand arg))
    | .separator => .error (.misuse (.unknownArgument arg))
    | .short cs => do arguments (← letters true verbose cs) rest
    | .long name value =>
      if name = "verbose" then do
        bare arg value
        arguments (← setVerbose verbose arg) rest
      else if name = "help" then do
        bare arg value
        .error .help
      else if name = "version" then do
        bare arg value
        .error .version
      else .error (.misuse (.unknownArgument arg))

/-- The options that a command line gives, or why there is nothing to check. -/
def Options.ofArguments (args : List String) : Except Ending Options :=
  arguments false args

end SheetCheck.Command
