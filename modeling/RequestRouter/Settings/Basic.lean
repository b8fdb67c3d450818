import RequestRouter.Decimal.Reading
import RequestRouter.Http.Token
import RequestRouter.Record.Conversion
import RequestRouter.Text.Blank

/-!
# Settings

What is chosen for a router when it is deployed: the conversion policies, the limit on bodies and
the header that carries request ids. Variables of the environment override what a file says.
-/

namespace RequestRouter

structure Settings where
  /-- The policy of parameter conversions. -/
  conversionPolicy : ConversionPolicy := .lenient
  /-- The policy of body parsers that follow the settings. -/
  bodyPolicy : ConversionPolicy := .lenient
  /-- The greatest accepted size of a body. -/
  maxBodyBytes : Nat := 0x100000
  /-- The header that request ids are read from and echoed in. -/
  requestIdHeader : String := "x-request-id"
deriving Repr, DecidableEq

abbrev Environment := String → Option String

/-- A number of 64 bits, decimal or after `0x` hexadecimal, between blanks. -/
def readSize? (s : String) : Option Nat :=
  match trimChars s.toList with
  | '0' :: 'x' :: digits => Decimal.unsigned? 16 0x10000000000000000 digits
  | digits => Decimal.unsigned? 10 0x10000000000000000 digits

namespace Settings

/-- The header that a variable names: its text without blanks, in lower case, if there is any. -/
def readHeader? (s : String) : Option String :=
  let name := trimText s
  if name.isEmpty then none else some (Http.lowerCase name)

def override (settings : Settings) (env : Environment) : Settings where
  conversionPolicy :=
    ((env "ROUTELOOM_CONVERSION_POLICY").map ConversionPolicy.ofText).getD settings.conversionPolicy
  bodyPolicy := ((env "ROUTELOOM_BODY_POLICY").map ConversionPolicy.ofText).getD settings.bodyPolicy
  maxBodyBytes := ((env "ROUTELOOM_MAX_BODY_BYTES").bind readSize?).getD settings.maxBodyBytes
  requestIdHeader :=
    ((env "ROUTELOOM_REQUEST_ID_HEADER").bind readHeader?).getD settings.requestIdHeader

def ofEnvironment (env : Environment) : Settings :=
  override {} env

end Settings

end RequestRouter
