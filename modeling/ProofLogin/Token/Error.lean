import ProofLogin.ErrorCode

/-!
# Token/Error — why a challenge token is refused
-/

namespace ProofLogin

/-- **Why a token is not issued or not accepted.** -/
inductive TokenError where
  | missingArguments (what : String)
  | keyMissing
  | invalid (reason : String)
  | expired
  | policyMismatch (expected presented : String)
  deriving DecidableEq, Repr

namespace TokenError

/-- The words of an error. -/
def message : TokenError → String
  | .missingArguments what => "missing arguments: " ++ what
  | .keyMissing => "challenge token key missing"
  | .invalid reason => "invalid challenge token: " ++ reason
  | .expired => "challenge token expired"
  | .policyMismatch expected presented =>
    "policy mismatch: expected params_version " ++ expected ++ ", got " ++ presented

/-- The code of an error. -/
def code : TokenError → ErrorCode
  | .missingArguments _ => .missingArguments
  | .keyMissing => .tokenKeyMissing
  | .invalid _ => .challengeInvalid
  | .expired => .challengeExpired
  | .policyMismatch _ _ => .policyMismatch

end TokenError

end ProofLogin
