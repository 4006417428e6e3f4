import ProofLogin.Login.Error
import ProofLogin.Token.Basic

/-!
# Token/Service — challenges for users

A service issues tokens under its keys and its policy, with a fixed time to live, and accepts each
of them once. What has been used is remembered in a store, which the operations take and give back.
-/

namespace ProofLogin

/-- **An issued challenge**, with its token. -/
structure IssuedChallenge where
  token : String
  challenge : UInt64
  jti : String
  expiresAt : Int64
  deriving DecidableEq, Repr

namespace IssuedChallenge

/-- The members of an issued challenge. -/
def memberNames : List String := ["token", "challenge", "jti", "expires_at"]

/-- An issued challenge as a JSON value. -/
def toJson (c : IssuedChallenge) : Json.Value :=
  .object [
    ("token", .text c.token),
    ("challenge", .ofUInt64 c.challenge),
    ("jti", .text c.jti),
    ("expires_at", .ofInt64 c.expiresAt)]

/-- An issued challenge from a JSON value. -/
def ofJson? (t : Json.Tree) : Option IssuedChallenge := do
  match ← t.record? memberNames with
  | [token, challenge, jti, expiresAt] =>
    return {
      token := ← Record.required? Json.Tree.text? token
      challenge := ← Record.required? Json.Tree.uint64? challenge
      jti := ← Record.required? Json.Tree.text? jti
      expiresAt := ← Record.required? Json.Tree.int64? expiresAt }
  | _ => none

end IssuedChallenge

/-- **A service that issues and accepts tokens.** -/
structure TokenService where
  keys : KeySet
  paramsVersion : String
  ttl : Int64
  deriving DecidableEq

namespace TokenService

/-- The service of a set of keys under a policy, if there is a key and the time to live is positive
and not too long. -/
def of (keys : KeySet) (policy : Policy) (ttl : UInt64) : Except LoginError TokenService :=
  if keys.isEmpty then .error .tokenKeyMissing
  else if 0 < ttl.toNat ∧ ttl.toNat < 0x8000000000000000 then
    .ok ⟨keys, policy.version, Int64.ofNat ttl.toNat⟩
  else .error (.invalidConfig ("invalid challenge ttl " ++ toString ttl.toNat))

/-- The sum of two 64-bit integers, or the nearest one that there is. -/
def addSaturating (a b : Int64) : Int64 :=
  Int64.ofInt (max Int64.minValue.toInt (min Int64.maxValue.toInt (a.toInt + b.toInt)))

/-- **The token of claims**, under the policy of the service unless they name another one. -/
def issue (s : TokenService) (c : Claims) (draw : Draw) : Except LoginError String :=
  let c := { c with paramsVersion := Token.orElse c.paramsVersion s.paramsVersion }
  (Token.issueWith c s.keys draw).mapError LoginError.ofToken

/-- **A drawn challenge for a user**, to be answered under a key. -/
def issueFor (s : TokenService) (userId vkId : String) (now : Int64) (draw : Draw) :
    Except LoginError IssuedChallenge := do
  let expiresAt := addSaturating now s.ttl
  let c := { Claims.of userId draw.challengeNumber expiresAt with vkId, jti := draw.idText }
  let token ← s.issue c draw
  return ⟨token, draw.challengeNumber, draw.idText, expiresAt⟩

/-- **The claims of a token that holds now**, under the policy of the service. -/
def validate (s : TokenService) (token : String) (now : Int64) (vkId : String) :
    Except LoginError Claims :=
  (Token.validateWith token s.keys now vkId s.paramsVersion).mapError LoginError.ofToken

/-- **The store after a token has been used**, unless it had been used before. -/
def redeem (store : ReplayStore) (c : Claims) : Except LoginError ReplayStore :=
  if c.jti = "" then .error (.tokenInvalid "token has no jti")
  else (store.insert c.jti c.expiresAt).mapError LoginError.ofReplay

/-- **A token used now**: its claims, and the store that remembers it. -/
def consume (s : TokenService) (store : ReplayStore) (token : String) (now : Int64)
    (vkId : String) : Except LoginError (Claims × ReplayStore) := do
  let c ← s.validate token now vkId
  return (c, ← redeem store c)

/-- How a service is shown in logs. -/
def inspect (s : TokenService) : String :=
  "ChallengeTokenService \x7b default_kid: " ++ KeySet.inspectKid s.keys.defaultKid
    ++ ", params_version: " ++ Text.quoted s.paramsVersion ++ ", ttl_secs: "
    ++ toString s.ttl.toInt ++ " \x7d"

end TokenService

end ProofLogin
