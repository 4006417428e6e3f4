import ProofLogin.ErrorCode
import ProofLogin.Text.Blank
import ProofLogin.Text.Lowercase
import ProofLogin.Text.Quoted

/-!
# Proof/Backend — which proofs are admitted

In production only backends with zero knowledge are admitted, in development all of them.
-/

namespace ProofLogin

/-- **A way to prove statements.** -/
inductive ProofBackend where
  | transparent
  | groth16
  | plonk
  deriving DecidableEq, Repr

namespace ProofBackend

/-- A backend that tells the verifier nothing but the statement. -/
def isZeroKnowledge : ProofBackend → Bool
  | .transparent => false
  | .groth16 => true
  | .plonk => true

/-- The long name of a backend. -/
def name : ProofBackend → String
  | .transparent => "transparent-hmac"
  | .groth16 => "groth16"
  | .plonk => "plonk"

/-- The backends by their short names. -/
def names : List (String × ProofBackend) :=
  [("transparent", .transparent), ("groth16", .groth16), ("plonk", .plonk)]

/-- The short name of a backend. -/
def shortName : ProofBackend → String
  | .transparent => "transparent"
  | .groth16 => "groth16"
  | .plonk => "plonk"

/-- How a backend is shown in logs. -/
def inspect : ProofBackend → String
  | .transparent => "Transparent"
  | .groth16 => "Groth16"
  | .plonk => "Plonk"

end ProofBackend

/-- **Why a backend is not admitted**, or a mode is none. -/
inductive BackendError where
  | backendRejected (backend : String)
  | unknownMode (text : String)
  deriving DecidableEq, Repr

namespace BackendError

/-- The words of an error. -/
def message : BackendError → String
  | .backendRejected backend =>
    "proof backend rejected: production mode requires a zero-knowledge backend (" ++ backend ++ ")"
  | .unknownMode text =>
    "unknown proof policy " ++ Text.quoted text
      ++ ": expected \"production\" or \"development\""

/-- The code of an error. -/
def code (_ : BackendError) : ErrorCode := .invalidConfig

end BackendError

/-- **What a deployment is for.** -/
inductive ProofMode where
  | production
  | development
  deriving DecidableEq, Repr

namespace ProofMode

/-- The name of a mode. -/
def name : ProofMode → String
  | .production => "production"
  | .development => "development"

/-- The modes by their names. -/
def names : List (String × ProofMode) :=
  [("production", .production), ("development", .development)]

/-- The mode where none is set. -/
def default : ProofMode := .development

/-- **The mode that a text names**, in either case and with blanks around it. -/
def ofText (s : String) : Except BackendError ProofMode :=
  let s := Text.lowercase (Text.trim s)
  if s = "production" ∨ s = "prod" then .ok .production
  else if s = "development" ∨ s = "dev" then .ok .development
  else .error (.unknownMode s)

/-- The mode that a setting names, if it is set. -/
def ofSetting : Option String → Except BackendError ProofMode
  | none => .ok default
  | some s => ofText s

/-- **The backends that a mode admits.** -/
def validate (m : ProofMode) (b : ProofBackend) : Except BackendError Unit :=
  if m = .production ∧ b.isZeroKnowledge = false then .error (.backendRejected b.name)
  else .ok ()

end ProofMode

end ProofLogin
