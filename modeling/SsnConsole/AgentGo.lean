import Mathlib

/-!
# Principals in the Go services

The services take principals from `agent-go`, where a principal is its raw bytes
and is keyed by its textual form.
-/

namespace SsnConsole.AgentGo

/-- `principal.Principal`. -/
structure Principal where
  raw : List UInt8
  deriving DecidableEq

/-- `Principal.String` tells principals apart: the textual form is an encoding of the
bytes. -/
class PrincipalText where
  text : Principal → String
  text_injective : Function.Injective text

/-- `Principal.String`. -/
def Principal.text [PrincipalText] (principal : Principal) : String :=
  PrincipalText.text principal

end SsnConsole.AgentGo
