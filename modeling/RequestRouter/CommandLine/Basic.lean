import RequestRouter.CommandLine.Argument
import RequestRouter.Settings.File
import RequestRouter.Settings.Logging

/-!
# Command lines

A command line is read from left to right: options of the program, a command, options of the
command. An option waits for its value until the next argument that is not an option, and what it
was given is only looked at when the next option comes or the arguments end; of two faults the
one that is reached first is reported.
-/

namespace RequestRouter

/-- Why arguments make no command line, or what they ask for instead of one. -/
inductive ArgumentError where
  /-- An option, or a plain argument, that its place does not have. -/
  | unknownArgument
  | unknownCommand
  /-- An option without a value, or with an empty one where a path is due. -/
  | noValue
  | badHeader (cause : HeaderFault)
  /-- An option was given twice. -/
  | repeated
  /-- A value for a flag. -/
  | unneededValue
  /-- A probe without its path. -/
  | missingPath
  | missingCommand
  /-- No argument at all. -/
  | nothingGiven
  /-- Help was asked for: on a command, on the program, or on help itself. -/
  | help (place : Option Place)
  | version
deriving Repr, DecidableEq

structure OptionValues where
  config : Option String := none
  logFormat : Option String := none
  logLevel : Option String := none
  method : Option String := none
  path : Option String := none
  body : Option String := none
  /-- Headers in the order of their options. -/
  headers : List (String × String) := []
deriving Repr, DecidableEq

/-- The variable that names the settings file where no option does. -/
def configVariable : String := "ROUTELOOM_CONFIG"

namespace OptionValues

/-- The value of an option that may be given once. -/
def once (before : Option String) (value : String) : Except ArgumentError (Option String) :=
  if before.isSome then .error .repeated else .ok (some value)

/-- A path cannot be empty. -/
def nonEmpty (value : String) : Except ArgumentError String :=
  if value.isEmpty then .error .noValue else .ok value

/-- The values with one more option. That an option is repeated is seen before its value. -/
def give (v : OptionValues) (o : ValueOption) (value : String) :
    Except ArgumentError OptionValues :=
  match o with
  | .config => do
    let config ← once v.config value
    let _ ← nonEmpty value
    return { v with config }
  | .logFormat => (once v.logFormat value).map fun logFormat => { v with logFormat }
  | .logLevel => (once v.logLevel value).map fun logLevel => { v with logLevel }
  | .method => (once v.method value).map fun method => { v with method }
  | .path => (once v.path value).map fun path => { v with path }
  | .body => (once v.body value).map fun body => { v with body }
  | .header =>
    match readHeaderArgument value with
    | .ok header => .ok { v with headers := v.headers ++ [header] }
    | .error cause => .error (.badHeader cause)

/-- The path that the environment names has to be one, where no option names another. -/
def checkEnvironment (env : Environment) (v : OptionValues) : Except ArgumentError Unit :=
  match v.config, env configVariable with
  | none, some path => (nonEmpty path).map fun _ => ()
  | _, _ => .ok ()

end OptionValues

structure Reading where
  values : OptionValues := {}
  /-- The option whose value is not looked at yet, with the value if it has come. -/
  pending : Option (ValueOption × Option String) := none
  /-- Whether the separator has come. -/
  trailing : Bool := false
deriving Repr, DecidableEq

namespace Reading

def isWaiting (r : Reading) : Bool :=
  match r.pending with
  | some (_, none) => true
  | _ => false

/-- Looks at the pending option. -/
def settle (r : Reading) : Except ArgumentError Reading :=
  match r.pending with
  | none => .ok r
  | some (_, none) => .error .noValue
  | some (o, some value) =>
    (r.values.give o value).map fun values => { r with values, pending := none }

def option (r : Reading) (o : ValueOption) (value : Option String) :
    Except ArgumentError Reading := do
  let r ← r.settle
  match value with
  | some value => (r.values.give o value).map fun values => { r with values }
  | none => return { r with pending := some (o, none) }

/-- A flag comes. What it asks for is answered if the option before it is in order. -/
def flag (place : Place) (r : Reading) (f : Flag) : Except ArgumentError Reading := do
  let _ ← r.settle
  match f with
  | .help => throw (.help (some place))
  | .version => throw .version

def long (place : Place) (r : Reading) (name : String) (value : Option String) :
    Except ArgumentError Reading :=
  match place.options.find? (·.long == name), place.flags.find? (·.long == name) with
  | some o, _ => r.option o value
  | none, some f =>
    match value with
    | some _ => .error .unneededValue
    | none => r.flag place f
  | none, none => .error .unknownArgument

/-- The value in the rest of an argument with one dash; an equals sign before it does not count. -/
def attached : List Char → Option String
  | [] => none
  | '=' :: rest => some (String.ofList rest)
  | rest => some (String.ofList rest)

/-- An argument with one dash. Its first letter decides, for no flag lets the reading go on. -/
def short (place : Place) (r : Reading) (letters : List Char) : Except ArgumentError Reading :=
  match letters with
  | [] => .ok r
  | letter :: rest =>
    match place.options.find? (·.short? == some letter), place.flags.find? (·.short == letter) with
    | some o, _ => r.option o (attached rest)
    | none, some f => r.flag place f
    | none, none => .error .unknownArgument

/-- The fault of an argument that is neither an option nor a value. -/
def misplaced (place : Place) (trailing : Bool) (argument : String) : ArgumentError :=
  match place with
  | .program =>
    if trailing && ((Place.ofCommand? argument).isSome || argument == helpCommand) then
      .unknownArgument
    else .unknownCommand
  | _ => .unknownArgument

def step (place : Place) (r : Reading) (argument : String) : Except ArgumentError Reading :=
  if r.trailing then .error (misplaced place true argument)
  else match Argument.ofText argument with
    | .separator => .ok { r with trailing := true }
    | .long name value => r.long place name value
    | .short letters => r.short place letters
    | .plain =>
      match r.pending with
      | some (o, none) => .ok { r with pending := some (o, some argument) }
      | _ => .error (misplaced place false argument)

def finish (env : Environment) (r : Reading) : Except ArgumentError OptionValues := do
  let r ← r.settle
  r.values.checkEnvironment env
  return r.values

end Reading

/-- What is dispatched to see how it is answered. -/
structure Probe where
  method : String := "GET"
  path : String
  body : Option String := none
  headers : List (String × String) := []
deriving Repr, DecidableEq

inductive Command where
  /-- List the endpoints. -/
  | routes
  /-- Dispatch one request. -/
  | probe (request : Probe)
deriving Repr, DecidableEq

structure CommandLine where
  /-- The path of the settings file. -/
  config : Option String := none
  logFormat : Option String := none
  logLevel : Option String := none
  command : Command
deriving Repr, DecidableEq

namespace CommandLine

def readPlace (place : Place) (env : Environment) (args : List String) :
    Except ArgumentError OptionValues := do
  let r ← args.foldlM (Reading.step place) {}
  r.finish env

def commandOf (place : Place) (v : OptionValues) : Except ArgumentError Command :=
  match place with
  | .program => .error .missingCommand
  | .routes => .ok .routes
  | .probe =>
    match v.path with
    | none => .error .missingPath
    | some path => .ok (.probe ⟨v.method.getD "GET", path, v.body, v.headers⟩)

def helpOn : List String → ArgumentError
  | [] => .help (some .program)
  | [argument] =>
    match Place.ofCommand? argument with
    | some place => .help (some place)
    | none => if argument = helpCommand then .help none else .unknownCommand
  | _ => .unknownCommand

def withoutCommand (env : Environment) (v : OptionValues) : ArgumentError :=
  if v = {} ∧ env configVariable = none then .nothingGiven else .missingCommand

/-- A command after the program's options; its own faults are reported first. An option that was
given in both places has the value of the inner one. -/
def assemble (env : Environment) (program : Reading) (place : Place) (args : List String) :
    Except ArgumentError CommandLine := do
  let inner ← readPlace place env args
  let command ← commandOf place inner
  let outer ← program.finish env
  return {
    config := (inner.config <|> outer.config) <|> env configVariable
    logFormat := inner.logFormat <|> outer.logFormat
    logLevel := inner.logLevel <|> outer.logLevel
    command }

/-- Reads the program's options up to the command. The value of an option is no command. -/
def readProgram (env : Environment) : Reading → List String → Except ArgumentError CommandLine
  | r, [] => do throw (withoutCommand env (← r.finish env))
  | r, argument :: rest =>
    let command := if r.trailing || r.isWaiting then none else Place.ofCommand? argument
    let help := !(r.trailing || r.isWaiting) && argument == helpCommand
    match command with
    | some place => assemble env r place rest
    | none =>
      if help then .error (helpOn rest)
      else match Reading.step .program r argument with
        | .ok r => readProgram env r rest
        | .error e => .error e

def parse (env : Environment) (args : List String) : Except ArgumentError CommandLine :=
  readProgram env {} args

/-- The logging settings of the environment with the options in their place. Standard output
carries the answer, so lines go to standard error, and at once. -/
def logSettings (c : CommandLine) (env : Environment) : LogSettings :=
  let s := LogSettings.ofEnvironment env
  { s with
    format := (c.logFormat.map LogFormat.ofText).getD s.format
    level := c.logLevel.getD s.level
    background := false
    toStandardError := true }

/-- The settings of the file that is named, or the defaults, with the environment's values.
`files` gives the text at a path. -/
def settings (c : CommandLine) (env : Environment) (files : String → Option String) :
    Except SettingsError Settings :=
  match c.config with
  | some path => Settings.load (files path) env
  | none => .ok (.ofEnvironment env)

end CommandLine

end RequestRouter
