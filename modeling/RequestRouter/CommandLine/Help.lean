import RequestRouter.CommandLine.Basic

/-!
# Help

The help of the program and of its commands: what each is for, how it is called, and the options
in two columns.
-/

namespace RequestRouter

def programName : String := "routeloom"

def versionText : String :=
  programName ++ " 0.1.0-alpha.1\n"

namespace ValueOption

/-- What stands for the value in help. -/
def placeholder : ValueOption → String
  | .config => "<CONFIG>"
  | .logFormat => "<LOG_FORMAT>"
  | .logLevel => "<LOG_LEVEL>"
  | .method => "<METHOD>"
  | .path => "<PATH>"
  | .body => "<BODY>"
  | .header => "<HEADERS>"

/-- What an option is for. The path in the environment is shown with its variable. -/
def about (env : Environment) : ValueOption → String
  | .config =>
    "Runtime configuration file (TOML). `ROUTELOOM_*` variables override it [env: " ++
      configVariable ++ "=" ++ (env configVariable).getD "" ++ "]"
  | .logFormat => "Log output format: json or pretty"
  | .logLevel => "Log level: trace, debug, info, warn or error"
  | .method => "HTTP method [default: GET]"
  | .path => "Request target, e.g. /user/42/name?verbose=1"
  | .body => "Request body"
  | .header => "Request header as `name:value` (repeatable)"

end ValueOption

def Flag.about : Flag → String
  | .help => "Print help"
  | .version => "Print version"

namespace Place

def about : Place → String
  | .program => "routeloom CLI"
  | .routes => "Print every endpoint of the demo tree with its full pattern"
  | .probe => "Dispatch one request through the demo tree and print the response"

def usage : Place → String
  | .program => "[OPTIONS] <COMMAND>"
  | .routes => "routes [OPTIONS]"
  | .probe => "probe [OPTIONS] --path <PATH>"

end Place

namespace Help

def aboutHelp : String :=
  "Print this message or the help of the given subcommand(s)"

def padded (width : Nat) (s : String) : String :=
  s ++ String.ofList (List.replicate (width - s.toList.length) ' ')

/-- Rows of two columns, the second two spaces after the widest entry of the first. -/
def columns (rows : List (String × String)) : String :=
  let width := rows.foldl (fun w (left, _) => max w left.toList.length) 0
  String.join (rows.map fun (left, right) => "  " ++ padded (width + 2) left ++ right ++ "\n")

/-- The names of an option: four columns for the letter, if it has one, then the long name. -/
def names (short : Option Char) (long : String) : String :=
  let letter := match short with
    | some c => String.ofList ['-', c, ',', ' ']
    | none => "    "
  letter ++ "--" ++ long

def optionRow (env : Environment) (o : ValueOption) : String × String :=
  (names o.short? o.long ++ " " ++ o.placeholder, o.about env)

def flagRow (f : Flag) : String × String :=
  (names (some f.short) f.long, f.about)

def commands : String :=
  "Commands:\n" ++ columns
    [("routes", Place.routes.about), ("probe", Place.probe.about), (helpCommand, aboutHelp)] ++ "\n"

def header (about usage : String) : String :=
  about ++ "\n\nUsage: " ++ programName ++ " " ++ usage ++ "\n\n"

def ofPlace (env : Environment) (place : Place) : String :=
  header place.about place.usage ++ (if place = .program then commands else "") ++
    "Options:\n" ++ columns (place.options.map (optionRow env) ++ place.flags.map flagRow)

def ofHelp : String :=
  header aboutHelp "help [COMMAND]..." ++ "Arguments:\n" ++
    columns [("[COMMAND]...", "Print help for the subcommand(s)")]

/-- The help that was asked for; `none` stands for that of `help`. -/
def text (env : Environment) : Option Place → String
  | some place => ofPlace env place
  | none => ofHelp

end Help

end RequestRouter
