import RequestRouter.CommandLine.Run

/-!
# The program

Arguments, variables and files come in, text and an exit code go out; what is done in between is
`CommandLine.run`.
-/

namespace RequestRouter

def knownVariables : List String :=
  [configVariable, "ROUTELOOM_CONVERSION_POLICY", "ROUTELOOM_BODY_POLICY",
    "ROUTELOOM_MAX_BODY_BYTES", "ROUTELOOM_REQUEST_ID_HEADER", "ROUTELOOM_LOG_LEVEL",
    "ROUTELOOM_LOG_FORMAT", "ROUTELOOM_LOG_ASYNC", "ROUTELOOM_LOG_TARGET_FILTER",
    "ROUTELOOM_LOG_INCLUDE_LOCATION"]

def readEnvironment : IO Environment := do
  let mut found : List (String × String) := []
  for name in knownVariables do
    if let some value ← IO.getEnv name then found := (name, value) :: found
  let all := found
  return fun name => all.lookup name

def readText (path : String) : IO (Option String) := do
  try
    return some (← IO.FS.readFile path)
  catch _ =>
    return none

def freshId : IO RequestId := do
  let bytes ← IO.getRandomBytes 16
  return .ofNat (bytes.toList.foldl (fun n b => n * 256 + b.toNat) 0)

end RequestRouter

open RequestRouter in
def main (args : List String) : IO UInt32 := do
  let env ← readEnvironment
  let named := match CommandLine.parse env args with
    | .ok c => c.config
    | .error _ => none
  let text ← match named with
    | some path => readText path
    | none => pure none
  let result := CommandLine.runArguments env (fun _ => text) (← freshId) args
  IO.print result.output
  IO.eprint result.complaint
  return result.code.toUInt32
