/-!
# ErrorCode — the codes that operators see

Every error of the library has one code, whatever layer it comes from. A code has a name and a
number: numbers from 1000 on are for logins, from 2000 on for keys, from 4000 on for settings.
-/

namespace ProofLogin

/-- **What went wrong**, as an operator is told. -/
inductive ErrorCode where
  | proofFormat
  | commitmentParse
  | verificationFailed
  | saltParse
  | bindingCompute
  | witnessCreate
  | proofGeneration
  | circuitCompile
  | missingArguments
  | challengeExpired
  | challengeInvalid
  | replayDetected
  | keyParse
  | keyMismatch
  | setupFailed
  | keyRotation
  | policyMismatch
  | invalidConfig
  | tokenKeyMissing
  deriving DecidableEq, Repr

namespace ErrorCode

/-- The number of a code. -/
def number : ErrorCode → String
  | .proofFormat => "E1001"
  | .commitmentParse => "E1002"
  | .verificationFailed => "E1003"
  | .saltParse => "E1005"
  | .bindingCompute => "E1006"
  | .witnessCreate => "E1007"
  | .proofGeneration => "E1008"
  | .circuitCompile => "E1009"
  | .missingArguments => "E1010"
  | .challengeExpired => "E1011"
  | .challengeInvalid => "E1012"
  | .replayDetected => "E1013"
  | .keyParse => "E2001"
  | .keyMismatch => "E2004"
  | .setupFailed => "E2005"
  | .keyRotation => "E2006"
  | .policyMismatch => "E4002"
  | .invalidConfig => "E4003"
  | .tokenKeyMissing => "E4004"

/-- The codes by their names. -/
def names : List (String × ErrorCode) := [
  ("ProofFormat", .proofFormat),
  ("CommitmentParse", .commitmentParse),
  ("VerificationFailed", .verificationFailed),
  ("SaltParse", .saltParse),
  ("BindingCompute", .bindingCompute),
  ("WitnessCreate", .witnessCreate),
  ("ProofGeneration", .proofGeneration),
  ("CircuitCompile", .circuitCompile),
  ("MissingArguments", .missingArguments),
  ("ChallengeExpired", .challengeExpired),
  ("ChallengeInvalid", .challengeInvalid),
  ("ReplayDetected", .replayDetected),
  ("KeyParse", .keyParse),
  ("KeyMismatch", .keyMismatch),
  ("SetupFailed", .setupFailed),
  ("KeyRotation", .keyRotation),
  ("PolicyMismatch", .policyMismatch),
  ("InvalidConfig", .invalidConfig),
  ("TokenKeyMissing", .tokenKeyMissing)]

end ErrorCode

end ProofLogin
