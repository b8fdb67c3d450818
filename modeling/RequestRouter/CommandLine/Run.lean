import RequestRouter.CommandLine.Help
import RequestRouter.CommandLine.Probe
import RequestRouter.Demo

/-!
# Running a command line

What the program prints, and the code that it ends with: 0 if it did what it was asked, 1 if it
could not, 2 if the arguments make no command line.
-/

namespace RequestRouter

structure RunResult where
  code : Nat
  /-- What goes to standard output. -/
  output : String
  /-- What goes to standard error. -/
  complaint : String
deriving Repr, DecidableEq

namespace RunResult

def success (output : String) : RunResult := ⟨0, output, ""⟩

def failure (reason : String) : RunResult := ⟨1, "", "Error: " ++ reason ++ "\n"⟩

def misuse (reason : String) : RunResult := ⟨2, "", reason⟩

end RunResult

def SettingsError.message : SettingsError → String
  | .unreadable => "failed to read config file"
  | .malformed => "invalid config"

namespace ArgumentError

def message : ArgumentError → String
  | .unknownArgument => "unexpected argument"
  | .unknownCommand => "unrecognized subcommand"
  | .noValue => "a value is required"
  | .badHeader cause => "invalid header: " ++ cause.message
  | .repeated => "the argument cannot be used multiple times"
  | .unneededValue => "unexpected value for a flag"
  | .missingPath => "the required argument --path was not provided"
  | .missingCommand => "a subcommand is required"
  | .nothingGiven => "no subcommand was given"
  | .help _ => "help"
  | .version => "version"

/-- The end of a run whose arguments make no command line. Help that was asked for is an answer. -/
def toResult (env : Environment) : ArgumentError → RunResult
  | .help place => .success (Help.text env place)
  | .version => .success versionText
  | .nothingGiven => .misuse (Help.ofPlace env .program)
  | e => .misuse ("error: " ++ e.message ++ "\n")

end ArgumentError

namespace Command

def run (router : Router) (fresh : RequestId) : Command → RunResult
  | .routes => .success router.listing
  | .probe request =>
    match (request.run router fresh {}).1 with
    | .ok report => .success report
    | .error e => .failure e.message

end Command

namespace CommandLine

def run (c : CommandLine) (env : Environment) (files : String → Option String)
    (fresh : RequestId) : RunResult :=
  match c.settings env files with
  | .error e => .failure e.message
  | .ok settings =>
    match Demo.router settings with
    | .error e => .failure e.message
    | .ok router => c.command.run router fresh

def runArguments (env : Environment) (files : String → Option String) (fresh : RequestId)
    (args : List String) : RunResult :=
  match parse env args with
  | .error e => e.toResult env
  | .ok c => c.run env files fresh

end CommandLine

end RequestRouter
