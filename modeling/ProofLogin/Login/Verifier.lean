import ProofLogin.Login.Bundle
import ProofLogin.Proof.Envelope
import ProofLogin.Proof.Transparent
import ProofLogin.Token.Service

/-!
# Login/Verifier — the server's side of a login

A verifier holds keys, a policy and a token service. Which of the keys are trusted and which of them
is active is said by a registry, and which tokens have been used by a store; both are taken as they
are at the time of a call.

A login names its key, or leaves that to the verifier, which then takes the active one. Everything
that can be checked without using the token up is checked first; then the token is used up, and only
then is the proof itself judged, by the proof system of the verifier.
-/

namespace ProofLogin

/-- **The server's side**, over a proof system. -/
structure LoginVerifier (S : ProofSystem := .transparent) where
  policy : Policy
  authKeys : List (Fingerprint × S.VerifyingKey)
  ageKey : Option (Fingerprint × S.VerifyingKey)
  tokens : TokenService

/-- **What verifiers share**: the registry of the keys, and the store of used tokens. -/
structure Shared where
  registry : KeyRegistry
  store : ReplayStore

/-- **A check of what a client sends.** What has been written by then stays, whether or not the
client is refused. -/
abbrev Check (α : Type) := ExceptT LoginError (StateM Shared) α

namespace LoginVerifier

variable {S : ProofSystem}

/-- The verifier of a login key and a service of the same policy, where the mode admits proofs of
this kind. -/
def of (key : S.VerifyingKey) (policy : Policy) (mode : ProofMode) (tokens : TokenService) :
    Except LoginError (LoginVerifier S) := do
  (mode.validate S.backend).mapError LoginError.proofPolicy
  policy.validate.mapError LoginError.ofParameter
  (requireCircuit .auth (S.verifyingCircuit key)).mapError LoginError.setup
  if tokens.paramsVersion = policy.version then
    return ⟨policy, [(S.fingerprint key, key)], none, tokens⟩
  else .error (.invalidConfig "token service is bound to a different policy")

/-- The login key of a name. -/
def authKey? (v : LoginVerifier S) (vkId : Fingerprint) : Option S.VerifyingKey :=
  v.authKeys.lookup vkId

/-- The verifier holds the login key of a name. -/
def holds (v : LoginVerifier S) (vkId : Fingerprint) : Bool :=
  (v.authKey? vkId).isSome

/-- The verifier with one more login key, in the place of one of its name. -/
def withKey (v : LoginVerifier S) (key : S.VerifyingKey) :
    Except LoginError (LoginVerifier S) := do
  (requireCircuit .auth (S.verifyingCircuit key)).mapError LoginError.setup
  let name := S.fingerprint key
  return { v with authKeys := (name, key) :: v.authKeys.filter fun (name', _) => name' ≠ name }

/-- The verifier with a key for age proofs. -/
def withAgeKey (v : LoginVerifier S) (key : S.VerifyingKey) :
    Except LoginError (LoginVerifier S) := do
  (requireCircuit .age (S.verifyingCircuit key)).mapError LoginError.setup
  return { v with ageKey := some (S.fingerprint key, key) }

/-- The error for a key that the verifier does not hold or the registry does not trust. -/
def notTrusted (vkId : Fingerprint) : LoginError :=
  .keyNotTrusted vkId.toHex

/-- One of the login keys made active. -/
def activate (v : LoginVerifier S) (registry : KeyRegistry) (vkId : Fingerprint) :
    Except LoginError (KeyRegistry × Option RotationEvent) :=
  if v.holds vkId then (registry.setActive vkId).mapError LoginError.registry
  else .error (notTrusted vkId)

/-- **The name of the active key**, which the verifier has to hold. -/
def activeVkId (v : LoginVerifier S) (registry : KeyRegistry) : Except LoginError Fingerprint := do
  let active ← registry.getActive.mapError LoginError.registry
  if v.holds active.vkId then return active.vkId else .error (notTrusted active.vkId)

/-- The bundle for clients: the policy and the active key. -/
def bundle (v : LoginVerifier S) (registry : KeyRegistry) : Except LoginError PolicyBundle :=
  (v.activeVkId registry).map (PolicyBundle.of v.policy)

/-- **A challenge for a user**, to be answered under the active key. -/
def issueChallenge (v : LoginVerifier S) (registry : KeyRegistry) (userId : String) (now : Int64)
    (draw : Draw) : Except LoginError IssuedChallenge := do
  if userId = "" then .error (.missingArguments "user_id")
  else
    let vkId ← v.activeVkId registry
    v.tokens.issueFor userId vkId.toHex now draw

/-! ## Logins -/

/-- **The key that a login is verified with**: the one it names, if the verifier holds it and the
registry trusts it, and otherwise the active one. -/
def resolveKey (v : LoginVerifier S) (registry : KeyRegistry) (presented : String)
    (moment : Instant) : Except LoginError Fingerprint :=
  match Fingerprint.ofHex presented with
  | .ok vkId =>
    if v.holds vkId && registry.isValidAt vkId moment then .ok vkId else v.activeVkId registry
  | .error _ => v.activeVkId registry

/-- What a login presents beside its proof is what is stored. -/
def checkPresented (e : Envelope) (stored : Commitment) : Except LoginError Unit := do
  match e.commitment with
  | none => pure ()
  | some text =>
    let c ← (FieldElement.ofDecimal text).mapError LoginError.ofCommitment
    if c ≠ stored.value then .error .proofVerificationFailed
  match e.salt with
  | none => pure ()
  | some text =>
    let s ← (Salt.ofHex text).mapError LoginError.ofCommitment
    if s ≠ stored.salt then .error .proofVerificationFailed

/-- **Everything that is checked before the token is used up**: its claims and the key. -/
def authorize (v : LoginVerifier S) (registry : KeyRegistry) (token : String) (e : Envelope)
    (userId : String) (stored : Commitment) (now : Int64) :
    Except LoginError (Claims × S.VerifyingKey) := do
  if token = "" then .error (.missingArguments "token")
  else if userId = "" then .error (.missingArguments "user_id")
  else if e.circuit? ≠ some .auth then .error .proofVerificationFailed
  else
    let moment := Instant.ofUnix now
    let vkId ← v.resolveKey registry e.vkId moment
    (PolicyBundle.of v.policy vkId).enforce e.vkId e.paramsVersion
    let claims ← v.tokens.validate token now vkId.toHex
    if claims.userId ≠ userId then .error (.tokenInvalid "token issued to another user")
    else if registry.isValidAt vkId moment = false then .error (notTrusted vkId)
    else match v.authKey? vkId with
      | none => .error (notTrusted vkId)
      | some key =>
        checkPresented e stored
        return (claims, key)

/-- The judgement on the proof of a login. -/
def judge (v : LoginVerifier S) (key : S.VerifyingKey) (claims : Claims) (e : Envelope)
    (stored : Commitment) : Except LoginError Claims :=
  let inputs := PublicInputs.auth (.of stored.value stored.salt claims.challenge v.policy)
  match S.verify key inputs e.proof with
  | .error _ => .error .proofVerificationFailed
  | .ok () => .ok claims

/-- The use of a token. -/
def redeem (c : Claims) : Check Unit := do
  let store ← TokenService.redeem (← get).store c
  modify fun shared => { shared with store }

/-- **The check of a login**, which answers with the claims of its token. -/
def checkLogin (v : LoginVerifier S) (token : String) (e : Envelope) (userId : String)
    (stored : Commitment) (now : Int64) : Check Claims := do
  let (claims, key) ← v.authorize (← get).registry token e userId stored now
  redeem claims
  v.judge key claims e stored

/-- **A login**: the claims of its token or why it is refused, and the store afterwards. -/
def verifyLogin (v : LoginVerifier S) (registry : KeyRegistry) (store : ReplayStore)
    (token : String) (e : Envelope) (userId : String) (stored : Commitment) (now : Int64) :
    Except LoginError Claims × ReplayStore :=
  let (result, shared) := (v.checkLogin token e userId stored now).run.run ⟨registry, store⟩
  (result, shared.store)

/-! ## Age proofs -/

/-- **The check of an age proof**, which needs no token. -/
def checkAge (v : LoginVerifier S) (e : Envelope) (moment : Instant) : Check Unit := do
  match v.ageKey with
  | none => throw (.keyNotTrusted "no age verifying key configured")
  | some (vkId, key) =>
    if e.circuit? ≠ some .age then throw .proofVerificationFailed
    else
      (PolicyBundle.of v.policy vkId).enforce e.vkId e.paramsVersion
      if (← get).registry.isValidAt vkId moment = false then throw (notTrusted vkId)
      else match S.verify key (.age (.of v.policy)) e.proof with
        | .error _ => throw .proofVerificationFailed
        | .ok () => return

/-- **An age proof**, admitted or not under a registry. Which tokens have been used plays no part in
it. -/
def verifyAge (v : LoginVerifier S) (registry : KeyRegistry) (e : Envelope) (moment : Instant) :
    Except LoginError Unit :=
  ((v.checkAge e moment).run.run ⟨registry, .disabled⟩).1

/-- How a verifier is shown in logs. -/
def inspect (v : LoginVerifier S) : String :=
  "LoginVerifier \x7b backend: " ++ S.backend.inspect ++ ", policy: " ++ v.policy.inspect
    ++ ", keys: " ++ toString v.authKeys.length ++ ", age: "
    ++ Fingerprint.inspectOption (v.ageKey.map Prod.fst) ++ " \x7d"

end LoginVerifier

end ProofLogin
