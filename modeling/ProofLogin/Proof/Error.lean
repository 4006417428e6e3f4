import ProofLogin.ErrorCode

/-!
# Proof/Error — why a key, a proof or a backend is refused
-/

namespace ProofLogin

/-- **Why there is no key.** -/
inductive SetupError where
  | compile (reason : String)
  | setup (reason : String)
  | keyParse (reason : String)
  deriving DecidableEq, Repr

namespace SetupError

/-- The words of an error. -/
def message : SetupError → String
  | .compile reason => "circuit compilation failed: " ++ reason
  | .setup reason => "key setup failed: " ++ reason
  | .keyParse reason => "key parse failed: " ++ reason

/-- The code of an error. -/
def code : SetupError → ErrorCode
  | .compile _ => .circuitCompile
  | .setup _ => .setupFailed
  | .keyParse _ => .keyParse

end SetupError

/-- **Why there is no proof.** -/
inductive ProvingError where
  | witness (reason : String)
  | proving (reason : String)
  deriving DecidableEq, Repr

namespace ProvingError

/-- The words of an error. -/
def message : ProvingError → String
  | .witness reason => "invalid witness: " ++ reason
  | .proving reason => "proof generation failed: " ++ reason

/-- The code of an error. -/
def code : ProvingError → ErrorCode
  | .witness _ => .witnessCreate
  | .proving _ => .proofGeneration

end ProvingError

/-- **Why a proof is not accepted.** -/
inductive VerificationError where
  | malformedProof (reason : String)
  | verificationFailed
  deriving DecidableEq, Repr

namespace VerificationError

/-- The words of an error. -/
def message : VerificationError → String
  | .malformedProof reason => "malformed proof: " ++ reason
  | .verificationFailed => "proof verification failed"

/-- The code of an error. -/
def code : VerificationError → ErrorCode
  | .malformedProof _ => .proofFormat
  | .verificationFailed => .verificationFailed

end VerificationError

end ProofLogin
