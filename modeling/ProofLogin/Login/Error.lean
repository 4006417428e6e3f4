import ProofLogin.Commitment.Error
import ProofLogin.Keys.Registry
import ProofLogin.Login.Replay
import ProofLogin.Proof.Backend
import ProofLogin.Proof.Error
import ProofLogin.Token.Error

/-!
# Login/Error — why a login is refused

An operator sees the words, the code and the kind of an error; a user sees one text whatever the
error is. The errors of the parts of a login are taken over: a token, a replay and a parse error
lose their origin, the others are kept as they are.
-/

namespace ProofLogin

/-- **Why a login is refused**, or cannot be set up. -/
inductive LoginError where
  | missingArguments (what : String)
  | tokenKeyMissing
  | tokenInvalid (reason : String)
  | tokenExpired
  | replayDetected
  | policyMismatch (expected presented : String)
  | keyMismatch (expected presented : String)
  | keyNotTrusted (key : String)
  | parse (reason : String)
  | proofVerificationFailed
  | proving (error : ProvingError)
  | setup (error : SetupError)
  | commitment (error : CommitmentError)
  | proofPolicy (error : BackendError)
  | registry (error : RegistryError)
  | invalidConfig (reason : String)
  deriving DecidableEq

namespace LoginError

/-- The words of an error. -/
def message : LoginError → String
  | .missingArguments what => "missing arguments: " ++ what
  | .tokenKeyMissing => "challenge token key missing"
  | .tokenInvalid reason => "invalid challenge token: " ++ reason
  | .tokenExpired => "challenge token expired"
  | .replayDetected => "challenge token already used (replay detected)"
  | .policyMismatch expected presented =>
    "policy mismatch: expected params_version " ++ expected ++ ", got " ++ presented
  | .keyMismatch expected presented =>
    "verifying key mismatch: expected " ++ expected ++ ", got " ++ presented
  | .keyNotTrusted key => "key version not trusted: " ++ key
  | .parse reason => "salt or commitment parse error: " ++ reason
  | .proofVerificationFailed => "proof verification failed"
  | .proving error => error.message
  | .setup error => error.message
  | .commitment error => error.message
  | .proofPolicy error => error.message
  | .registry error => error.message
  | .invalidConfig reason => "invalid configuration: " ++ reason

/-- The code of an error. -/
def code : LoginError → ErrorCode
  | .missingArguments _ => .missingArguments
  | .tokenKeyMissing => .tokenKeyMissing
  | .tokenInvalid _ => .challengeInvalid
  | .tokenExpired => .challengeExpired
  | .replayDetected => .replayDetected
  | .policyMismatch _ _ => .policyMismatch
  | .keyMismatch _ _ => .keyMismatch
  | .keyNotTrusted _ => .keyRotation
  | .parse _ => .commitmentParse
  | .proofVerificationFailed => .verificationFailed
  | .proving error => error.code
  | .setup error => error.code
  | .commitment error => error.code
  | .proofPolicy error => error.code
  | .registry error => error.code
  | .invalidConfig _ => .invalidConfig

/-- The kind of an error, under which logins are counted. -/
def kind : LoginError → String
  | .missingArguments _ => "missing_arguments"
  | .tokenKeyMissing => "token_key_missing"
  | .tokenInvalid _ => "token_invalid"
  | .tokenExpired => "token_expired"
  | .replayDetected => "replay_detected"
  | .policyMismatch _ _ => "policy_mismatch"
  | .keyMismatch _ _ => "key_mismatch"
  | .keyNotTrusted _ => "key_not_trusted"
  | .parse _ => "parse_error"
  | .proofVerificationFailed => "proof_verification_failed"
  | .proving _ => "proving_failed"
  | .setup _ => "setup_failed"
  | .commitment _ => "commitment_failed"
  | .proofPolicy _ => "proof_policy"
  | .registry _ => "registry"
  | .invalidConfig _ => "invalid_config"

/-- What a user is told. -/
def userMessage (_ : LoginError) : String :=
  "verification failed"

/-! ## Errors of the parts -/

/-- The error of a token. -/
def ofToken : TokenError → LoginError
  | .missingArguments what => .missingArguments what
  | .keyMissing => .tokenKeyMissing
  | .invalid reason => .tokenInvalid reason
  | .expired => .tokenExpired
  | .policyMismatch expected presented => .policyMismatch expected presented

/-- The error of a token that has been used. -/
def ofReplay : ReplayError → LoginError
  | .alreadyUsed => .replayDetected

/-- The error of a salt or a commitment. -/
def ofCommitment : CommitmentError → LoginError
  | .saltDecode reason => .parse (CommitmentError.message (.saltDecode reason))
  | .commitmentParse reason => .parse (CommitmentError.message (.commitmentParse reason))
  | e => .commitment e

/-- The error of a parameter. -/
def ofParameter (e : ParameterError) : LoginError :=
  .invalidConfig e.message

end LoginError

end ProofLogin
