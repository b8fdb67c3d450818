import RequestRouter.Settings.Basic
import RequestRouter.Toml.Document

/-!
# Settings files

Settings as a TOML document. Keys that it lacks keep their defaults, keys that settings do not
have are ignored.
-/

namespace RequestRouter

inductive SettingsError where
  /-- There is no such file. -/
  | unreadable
  /-- The text is not TOML, or a value is not one of a setting. -/
  | malformed
deriving Repr, DecidableEq

namespace Settings

def policyNamed (name : String) : Option ConversionPolicy :=
  if name = "lenient" then some .lenient else if name = "strict" then some .strict else none

/-- A policy by its name, or as the name of the only member of a table with nothing in it. -/
def readPolicy : Toml → Option ConversionPolicy
  | .string name => policyNamed name
  | .table [(name, .table [])] => policyNamed name
  | .table [(name, .array [])] => policyNamed name
  | _ => none

def readLimit : Toml → Option Nat
  | .integer n => if 0 ≤ n ∧ n < 0x10000000000000000 then some n.toNat else none
  | _ => none

def readText : Toml → Option String
  | .string s => some s
  | _ => none

/-- The setting under `name`, or its default if there is none. -/
def setting {α : Type} (read : Toml → Option α) (name : String) (default : α)
    (members : List (String × Toml)) : Option α :=
  match members.lookup name with
  | none => some default
  | some v => read v

def ofMembers (members : List (String × Toml)) : Option Settings := do
  let d : Settings := {}
  let conversion ← setting readPolicy "conversion_policy" d.conversionPolicy members
  let body ← setting readPolicy "body_policy" d.bodyPolicy members
  let limit ← setting readLimit "max_body_bytes" d.maxBodyBytes members
  let header ← setting readText "request_id_header" d.requestIdHeader members
  some ⟨conversion, body, limit, header⟩

def ofDocument (text : String) : Except SettingsError Settings :=
  match (Toml.parse text).bind ofMembers with
  | some settings => .ok settings
  | none => .error .malformed

/-- The settings of a file's text, with the environment's values; `none` if there is no file. -/
def load (text : Option String) (env : Environment) : Except SettingsError Settings :=
  match text with
  | none => .error .unreadable
  | some text => (ofDocument text).map (override · env)

end Settings

end RequestRouter
