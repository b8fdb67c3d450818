import RequestRouter.Text.Blank
import RequestRouter.Text.Split

/-!
# Arguments

The outer form of one argument, the options that a command line has, and the places where each
of them may stand.
-/

namespace RequestRouter

inductive Argument where
  /-- `--`: nothing after it is an option or a command. -/
  | separator
  /-- `--name` or `--name=value`. -/
  | long (name : String) (value : Option String)
  /-- One dash with letters after it. -/
  | short (letters : List Char)
  /-- Anything else, a single dash included. -/
  | plain
deriving Repr, DecidableEq

def Argument.ofText (s : String) : Argument :=
  match s.toList with
  | ['-', '-'] => .separator
  | '-' :: '-' :: rest =>
    let (name, value) := cutFirst '=' rest
    .long (String.ofList name) (value.map String.ofList)
  | '-' :: letter :: rest => .short (letter :: rest)
  | _ => .plain

/-- Where an argument stands: before the command, or after one. -/
inductive Place where
  | program
  | routes
  | probe
deriving Repr, DecidableEq

inductive ValueOption where
  | config
  | logFormat
  | logLevel
  | method
  | path
  | body
  | header
deriving Repr, DecidableEq

/-- An option without a value, which stops the reading. -/
inductive Flag where
  | help
  | version
deriving Repr, DecidableEq

namespace ValueOption

/-- The name after two dashes. -/
def long : ValueOption → String
  | .config => "config"
  | .logFormat => "log-format"
  | .logLevel => "log-level"
  | .method => "method"
  | .path => "path"
  | .body => "body"
  | .header => "header"

def short? : ValueOption → Option Char
  | .method => some 'm'
  | .path => some 'p'
  | .body => some 'b'
  | .header => some 'H'
  | _ => none

end ValueOption

namespace Flag

def long : Flag → String
  | .help => "help"
  | .version => "version"

def short : Flag → Char
  | .help => 'h'
  | .version => 'V'

end Flag

namespace Place

/-- The options of a place, in the order in which help lists them. Three of them stand
everywhere. -/
def options : Place → List ValueOption
  | .probe => [.config, .method, .logFormat, .path, .body, .logLevel, .header]
  | _ => [.config, .logFormat, .logLevel]

def flags : Place → List Flag
  | .program => [.help, .version]
  | _ => [.help]

def ofCommand? (s : String) : Option Place :=
  if s = "routes" then some .routes else if s = "probe" then some .probe else none

end Place

def helpCommand : String := "help"

inductive HeaderFault where
  | noColon (argument : String)
  | emptyName (argument : String)
deriving Repr, DecidableEq

def HeaderFault.message : HeaderFault → String
  | .noColon argument => s!"expected name:value, got `{argument}`"
  | .emptyName argument => s!"empty header name in `{argument}`"

/-- A name and a value around the first colon, without the blanks at their ends. -/
def readHeaderArgument (argument : String) : Except HeaderFault (String × String) :=
  match cutFirst ':' argument.toList with
  | (_, none) => .error (.noColon argument)
  | (name, some value) =>
    let name := trimChars name
    if name.isEmpty then .error (.emptyName argument)
    else .ok (String.ofList name, String.ofList (trimChars value))

end RequestRouter
