import ProofLogin.Decimal.Shortest
import ProofLogin.ErrorCode

/-!
# ParameterError — what can be wrong with a parameter

A setting is out of its range, the text of a key fingerprint is none, or a value that has to be
signed holds a number without canonical form.
-/

namespace ProofLogin

/-- **A parameter that cannot be used.** -/
inductive ParameterError where
  | noCanonicalForm (x : Binary64)
  | invalidFingerprint (reason : String)
  | invalidConfig (reason : String)
  deriving DecidableEq, Repr

namespace ParameterError

/-- The words for a number without canonical form. -/
def floatMessage (x : Binary64) : String :=
  "float values are not permitted in canonical representations: " ++ x.toText

/-- The words of an error. -/
def message : ParameterError → String
  | .noCanonicalForm x => "canonicalization error: " ++ floatMessage x
  | .invalidFingerprint reason => "invalid key fingerprint: " ++ reason
  | .invalidConfig reason => "invalid configuration: " ++ reason

/-- The code of an error. -/
def code : ParameterError → ErrorCode
  | .noCanonicalForm _ => .challengeInvalid
  | .invalidFingerprint _ => .keyParse
  | .invalidConfig _ => .invalidConfig

end ParameterError

end ProofLogin
