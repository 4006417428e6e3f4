import ProofLogin.ParameterError

/-!
# Commitment/Error — why there is no commitment
-/

namespace ProofLogin

/-- **What can be wrong with a salt, a commitment or the derivation of a secret.** -/
inductive CommitmentError where
  | saltDecode (reason : String)
  | commitmentParse (reason : String)
  | kdf (reason : String)
  | invalidPolicy (error : ParameterError)
  | commitmentMismatch
  deriving DecidableEq, Repr

namespace CommitmentError

/-- The words of an error. -/
def message : CommitmentError → String
  | .saltDecode reason => "salt decode failed: " ++ reason
  | .commitmentParse reason => "commitment parse failed: " ++ reason
  | .kdf reason => "key derivation failed: " ++ reason
  | .invalidPolicy error => "invalid policy: " ++ error.message
  | .commitmentMismatch => "old commitment mismatch: secret or salt may be incorrect"

/-- The code of an error. -/
def code : CommitmentError → ErrorCode
  | .saltDecode _ => .saltParse
  | .commitmentParse _ => .commitmentParse
  | .kdf _ => .bindingCompute
  | .invalidPolicy error => error.code
  | .commitmentMismatch => .commitmentParse

end CommitmentError

end ProofLogin
