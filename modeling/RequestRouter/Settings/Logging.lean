import RequestRouter.Settings.Basic

/-!
# Logging settings

How much is logged, in what form and where to. The variables of the environment decide; a
variable that is not set or cannot be read leaves the default.
-/

namespace RequestRouter

inductive LogFormat where
  | json
  | pretty
deriving Repr, DecidableEq

/-- `pretty` in any letter case; every other text stands for JSON. -/
def LogFormat.ofText (s : String) : LogFormat :=
  if Http.lowerCase s = "pretty" then .pretty else .json

/-- What is logged, and how. The defaults are those of a deployment. -/
structure LogSettings where
  /-- The least level that is logged. -/
  level : String := "info"
  format : LogFormat := .json
  /-- Whether lines are written in the background. -/
  background : Bool := true
  /-- Further directives about what is logged. -/
  filter : Option String := none
  /-- Whether a line tells where it comes from. -/
  location : Bool := false
  /-- Whether lines go to standard error, so that standard output is left to answers. -/
  toStandardError : Bool := false
deriving Repr, DecidableEq

/-- One of the words `true` and `false`, exactly. -/
def readSwitch? (s : String) : Option Bool :=
  if s = "true" then some true else if s = "false" then some false else none

namespace LogSettings

def production : LogSettings := {}

/-- The defaults while a program is developed: more lines, for a reader, written at once. -/
def development : LogSettings where
  level := "debug"
  format := .pretty
  background := false
  location := true

def ofEnvironment (env : Environment) : LogSettings where
  level := (env "ROUTELOOM_LOG_LEVEL").getD "info"
  format := ((env "ROUTELOOM_LOG_FORMAT").map LogFormat.ofText).getD .json
  background := ((env "ROUTELOOM_LOG_ASYNC").bind readSwitch?).getD true
  filter := env "ROUTELOOM_LOG_TARGET_FILTER"
  location := ((env "ROUTELOOM_LOG_INCLUDE_LOCATION").bind readSwitch?).getD false

end LogSettings

end RequestRouter
