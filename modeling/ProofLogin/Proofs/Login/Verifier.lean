import ProofLogin.Login.Verifier
import ProofLogin.Proofs.Commitment.Field
import ProofLogin.Proofs.Fingerprint
import ProofLogin.Proofs.Keys.Registry
import ProofLogin.Proofs.Ordered
import ProofLogin.Proofs.Proof.Transparent
import ProofLogin.Proofs.Token.Service

/-!
# Proofs/Login/Verifier — which logins are admitted

    resolveKey ──▸ enforce ──▸ validate ──▸ isValidAt ──▸ checkPresented ──▸ redeem ──▸ judge

Each arrow may refuse.  `authorize_eq_ok_iff` is the chain before the token is used up and
`verifyLogin_eq_ok_iff` the whole of it, link by link, over any proof system.  What the chain
amounts to over the transparent one, where a proof is a keyed digest, is
`verifyLogin_eq_ok_iff_admits`: one key, `Admits`, that everything agrees on.  The verifiers are the
ones that can be `Built`; of these it is known that the policy is valid, that a key is held under
its own name and is for logins, and that the service has the same policy (`Built.wellFormed`).
-/

namespace ProofLogin

namespace LoginVerifier

variable {S : ProofSystem} {v : LoginVerifier S} {registry : KeyRegistry}
  {store store' : ReplayStore} {token userId : String} {e : Envelope} {stored : Commitment}
  {now : Int64} {c : Claims} {key : S.VerifyingKey} {vkId : Fingerprint} {moment : Instant}

/-! ## Verifiers that can be built -/

/-- **The verifiers that there are**: made of a first key, and then given further ones. -/
inductive Built : LoginVerifier S → Prop
  | of {key : S.VerifyingKey} {policy : Policy} {mode : ProofMode} {tokens : TokenService}
      {v : LoginVerifier S} (h : LoginVerifier.of key policy mode tokens = .ok v) : Built v
  | withKey {v w : LoginVerifier S} {key : S.VerifyingKey} (hv : Built v)
      (h : v.withKey key = .ok w) : Built w
  | withAgeKey {v w : LoginVerifier S} {key : S.VerifyingKey} (hv : Built v)
      (h : v.withAgeKey key = .ok w) : Built w

/-- **The policy is valid, every login key is for logins and is held under its own name**, and
tokens are issued under the policy of the verifier. -/
structure WellFormed (v : LoginVerifier S) : Prop where
  validate_eq : v.policy.validate = .ok ()
  circuit_eq : ∀ p ∈ v.authKeys, S.verifyingCircuit p.2 = .auth
  fingerprint_eq : ∀ p ∈ v.authKeys, S.fingerprint p.2 = p.1
  paramsVersion_eq : v.tokens.paramsVersion = v.policy.version

theorem wellFormed_of {policy : Policy} {mode : ProofMode} {tokens : TokenService}
    (h : LoginVerifier.of key policy mode tokens = .ok v) : v.WellFormed := by
  obtain ⟨-, -, h⟩ := Outcome.bind_eq_ok.mp h
  obtain ⟨⟨⟩, hpolicy, h⟩ := Outcome.bind_eq_ok.mp h
  obtain ⟨⟨⟩, hcircuit, h⟩ := Outcome.bind_eq_ok.mp h
  obtain ⟨hversion, h⟩ := Outcome.ite_ok_eq_ok.mp h
  obtain rfl := Outcome.pure_eq_ok.mp h
  have hcircuit := requireCircuit_eq_ok_iff.mp (Outcome.mapError_eq_ok.mp hcircuit)
  refine ⟨Outcome.mapError_eq_ok.mp hpolicy, ?_, ?_, hversion⟩
  · simpa using hcircuit
  · simp

theorem WellFormed.withKey {w : LoginVerifier S} (hv : v.WellFormed)
    (h : v.withKey key = .ok w) : w.WellFormed := by
  obtain ⟨⟨⟩, hcircuit, h⟩ := Outcome.bind_eq_ok.mp h
  obtain rfl := Outcome.pure_eq_ok.mp h
  have hcircuit := requireCircuit_eq_ok_iff.mp (Outcome.mapError_eq_ok.mp hcircuit)
  refine ⟨hv.validate_eq, ?_, ?_, hv.paramsVersion_eq⟩
  · intro p hp
    rcases List.mem_cons.mp hp with rfl | hp
    · exact hcircuit
    · exact hv.circuit_eq p (List.mem_filter.mp hp).1
  · intro p hp
    rcases List.mem_cons.mp hp with rfl | hp
    · rfl
    · exact hv.fingerprint_eq p (List.mem_filter.mp hp).1

theorem WellFormed.withAgeKey {w : LoginVerifier S} (hv : v.WellFormed)
    (h : v.withAgeKey key = .ok w) : w.WellFormed := by
  obtain ⟨⟨⟩, -, h⟩ := Outcome.bind_eq_ok.mp h
  obtain rfl := Outcome.pure_eq_ok.mp h
  exact ⟨hv.validate_eq, hv.circuit_eq, hv.fingerprint_eq, hv.paramsVersion_eq⟩

/-- **Every verifier that can be built is well formed.** -/
theorem Built.wellFormed (h : Built v) : v.WellFormed := by
  induction h with
  | of h => exact wellFormed_of h
  | withKey _ h ih => exact ih.withKey h
  | withAgeKey _ h ih => exact ih.withAgeKey h

theorem WellFormed.circuit_of_authKey? (hv : v.WellFormed) (h : v.authKey? vkId = some key) :
    S.verifyingCircuit key = .auth :=
  hv.circuit_eq _ (Ordered.mem_of_lookup h)

theorem holds_iff : v.holds vkId = true ↔ ∃ key, v.authKey? vkId = some key := by
  rw [holds, Option.isSome_iff_exists]

/-! ## The key of a login -/

theorem activeVkId_eq_ok_iff : v.activeVkId registry = .ok vkId ↔
    registry.active = some vkId ∧ (∃ version, registry.find? vkId = some version)
      ∧ v.holds vkId = true := by
  rw [activeVkId, Outcome.bind_eq_ok]
  constructor
  · rintro ⟨version, hactive, h⟩
    obtain ⟨vkId', hname, hfind⟩ :=
      KeyRegistry.getActive_eq_ok_iff.mp (Outcome.mapError_eq_ok.mp hactive)
    obtain rfl := KeyRegistry.vkId_of_find? hfind
    obtain ⟨hholds, h⟩ := Outcome.ite_ok_eq_ok.mp h
    obtain rfl := Outcome.pure_eq_ok.mp h
    exact ⟨hname, ⟨version, hfind⟩, hholds⟩
  · rintro ⟨hname, ⟨version, hfind⟩, hholds⟩
    refine ⟨version, Outcome.mapError_eq_ok.mpr
      (KeyRegistry.getActive_eq_ok_iff.mpr ⟨vkId, hname, hfind⟩), ?_⟩
    rw [KeyRegistry.vkId_of_find? hfind, if_pos hholds]
    rfl

theorem enforce_eq_ok_iff {vk params : String} {policy : Policy} :
    (PolicyBundle.of policy vkId).enforce vk params = .ok () ↔
      (vk = "" ∨ vk = vkId.toHex) ∧ (params = "" ∨ params = policy.version) := by
  rw [PolicyBundle.enforce, Outcome.ite_error_eq_ok, Outcome.ite_error_eq_ok, and_iff_left rfl]
  simp only [PolicyBundle.of, not_and_or, not_not, ne_eq]

/-- **Where the key of a login falls back to the active one, the login does not name another key**:
the key is named exactly, or it is the active one and none is named. -/
theorem resolveKey_eq_ok_iff {presented : String} (hvalid : registry.isValidAt vkId moment = true)
    (hpresented : presented = "" ∨ presented = vkId.toHex) :
    v.resolveKey registry presented moment = .ok vkId ↔
      v.holds vkId = true ∧ (presented = vkId.toHex
        ∨ presented = "" ∧ registry.active = some vkId) := by
  rcases hpresented with rfl | rfl
  · have hname : ¬"" = vkId.toHex := fun h => vkId.toHex_ne_empty h.symm
    have hfind := KeyRegistry.exists_find?_of_isValidAt hvalid
    have hactive : v.resolveKey registry "" moment = v.activeVkId registry := by
      rw [resolveKey]
      cases h : Fingerprint.ofHex "" with
      | error => rfl
      | ok f => exact absurd h f.ofHex_ne_ok_of_empty
    rw [hactive, activeVkId_eq_ok_iff]
    constructor
    · rintro ⟨hname, -, hholds⟩
      exact ⟨hholds, .inr ⟨rfl, hname⟩⟩
    · rintro ⟨hholds, h | ⟨-, h⟩⟩
      · exact absurd h hname
      · exact ⟨h, hfind, hholds⟩
  · have hresolve : v.resolveKey registry vkId.toHex moment =
        if v.holds vkId = true then .ok vkId else v.activeVkId registry := by
      rw [resolveKey, Fingerprint.ofHex_toHex]
      simp only [hvalid, Bool.and_true]
    rw [hresolve]
    constructor
    · intro h
      by_cases hholds : v.holds vkId = true
      · exact ⟨hholds, .inl rfl⟩
      · rw [if_neg hholds] at h
        exact ⟨(activeVkId_eq_ok_iff.mp h).2.2, .inl rfl⟩
    · rintro ⟨hholds, -⟩
      rw [if_pos hholds]

/-! ## What a login presents -/

theorem checkPresented_eq_ok_iff : checkPresented e stored = .ok () ↔
    (∀ text, e.commitment = some text → text = stored.value.toDecimal)
      ∧ ∀ text, e.salt = some text → Salt.ofHex text = .ok stored.salt := by
  rw [checkPresented]
  cases e.commitment with
  | none => cases e.salt <;> simp
  | some text =>
    cases e.salt with
    | none => simp [FieldElement.ofDecimal_eq_ok_iff]
    | some salt =>
      simp only [Outcome.bind_eq_ok, Outcome.mapError_eq_ok, Outcome.error_bind,
        Outcome.ite_error_eq_ok, FieldElement.ofDecimal_eq_ok_iff, not_not, ne_eq,
        Outcome.pure_eq_ok, and_true, exists_eq_right, Option.some.injEq, forall_eq']
      constructor
      · rintro ⟨value, rfl, rfl, hsalt⟩
        exact ⟨rfl, hsalt⟩
      · rintro ⟨rfl, hsalt⟩
        exact ⟨_, rfl, rfl, hsalt⟩

/-! ## Before the token is used up -/

/-- **A login is authorized exactly when every check before the use of the token passes.** -/
theorem authorize_eq_ok_iff :
    v.authorize registry token e userId stored now = .ok (c, key) ↔
      token ≠ "" ∧ userId ≠ "" ∧ e.circuit? = some .auth ∧ ∃ vkId,
        v.resolveKey registry e.vkId (.ofUnix now) = .ok vkId
        ∧ (PolicyBundle.of v.policy vkId).enforce e.vkId e.paramsVersion = .ok ()
        ∧ v.tokens.validate token now vkId.toHex = .ok c ∧ c.userId = userId
        ∧ registry.isValidAt vkId (.ofUnix now) = true ∧ v.authKey? vkId = some key
        ∧ checkPresented e stored = .ok () := by
  rw [authorize, Outcome.ite_error_eq_ok, Outcome.ite_error_eq_ok, Outcome.ite_error_eq_ok, not_not]
  refine and_congr_right fun _ => and_congr_right fun _ => and_congr_right fun _ => ?_
  simp only [Outcome.bind_eq_ok, Outcome.ite_error_eq_ok]
  refine exists_congr fun vkId => and_congr_right fun _ => ?_
  constructor
  · rintro ⟨⟨⟩, henforce, claims, hvalidate, huser, hvalid, h⟩
    split at h
    case h_1 => cases h
    case h_2 hkey =>
      obtain ⟨⟨⟩, hpresented, h⟩ := Outcome.bind_eq_ok.mp h
      cases Outcome.pure_eq_ok.mp h
      exact ⟨henforce, hvalidate, not_not.mp huser, Bool.not_eq_false _ ▸ hvalid, hkey, hpresented⟩
  · rintro ⟨henforce, hvalidate, huser, hvalid, hkey, hpresented⟩
    refine ⟨(), henforce, c, hvalidate, not_not.mpr huser, Bool.not_eq_false _ ▸ hvalid, ?_⟩
    rw [hkey]
    exact Outcome.bind_eq_ok.mpr ⟨(), hpresented, rfl⟩

/-! ## The whole of a login -/

/-- The public inputs that a login has to be proved for. -/
def inputs (v : LoginVerifier S) (stored : Commitment) (challenge : UInt64) : PublicInputs :=
  .auth (.of stored.value stored.salt challenge v.policy)

/-- **The claims of a login are given out exactly if its proof is accepted.** -/
theorem judge_eq_ok_iff {c' : Claims} : v.judge key c e stored = .ok c' ↔
    S.verify key (v.inputs stored c.challenge) e.proof = .ok () ∧ c = c' := by
  rw [judge]
  split
  case h_1 h =>
    simp only [reduceCtorEq, false_iff, not_and]
    intro h'
    rw [inputs, h] at h'
    cases h'
  case h_2 h => simp only [inputs, h, Except.ok.injEq, true_and]

/-- **The check of a login, place by place**, with what it leaves at each of them. -/
theorem run_checkLogin (v : LoginVerifier S) (token : String) (e : Envelope) (userId : String)
    (stored : Commitment) (now : Int64) (shared : Shared) :
    (v.checkLogin token e userId stored now).run.run shared =
      match v.authorize shared.registry token e userId stored now with
      | .error err => (.error err, shared)
      | .ok (c, key) => match TokenService.redeem shared.store c with
        | .error err => (.error err, shared)
        | .ok store => (v.judge key c e stored, { shared with store }) := by
  rw [checkLogin, Outcome.run_get_bind, Outcome.run_lift_bind]
  cases v.authorize shared.registry token e userId stored now with
  | error err => rfl
  | ok authorized =>
    obtain ⟨c, key⟩ := authorized
    simp only [redeem, bind_assoc, Outcome.run_get_bind, Outcome.run_lift_bind]
    cases TokenService.redeem shared.store c <;> rfl

theorem verifyLogin_eq (v : LoginVerifier S) (registry : KeyRegistry) (store : ReplayStore)
    (token : String) (e : Envelope) (userId : String) (stored : Commitment) (now : Int64) :
    v.verifyLogin registry store token e userId stored now =
      match v.authorize registry token e userId stored now with
      | .error err => (.error err, store)
      | .ok (c, key) => match TokenService.redeem store c with
        | .error err => (.error err, store)
        | .ok store' => (v.judge key c e stored, store') := by
  rw [verifyLogin, run_checkLogin]
  cases v.authorize registry token e userId stored now with
  | error err => rfl
  | ok authorized =>
    simp only
    cases TokenService.redeem store authorized.1 <;> rfl

/-- **A login leaves the registry as it is.** -/
theorem run_checkLogin_eq (v : LoginVerifier S) (token : String) (e : Envelope) (userId : String)
    (stored : Commitment) (now : Int64) (shared : Shared) :
    let login := v.verifyLogin shared.registry shared.store token e userId stored now
    (v.checkLogin token e userId stored now).run.run shared
      = (login.1, { shared with store := login.2 }) := by
  rw [verifyLogin_eq, run_checkLogin]
  cases v.authorize shared.registry token e userId stored now with
  | error err => rfl
  | ok authorized =>
    simp only
    cases TokenService.redeem shared.store authorized.1 <;> rfl

theorem verifyLogin_of_error {err : LoginError}
    (h : v.authorize registry token e userId stored now = .error err) :
    v.verifyLogin registry store token e userId stored now = (.error err, store) := by
  rw [verifyLogin_eq, h]

/-- What a login has gone through when its token has been used up. -/
theorem verifyLogin_of_redeem (h : v.authorize registry token e userId stored now = .ok (c, key))
    (hredeem : TokenService.redeem store c = .ok store') :
    v.verifyLogin registry store token e userId stored now = (v.judge key c e stored, store') := by
  rw [verifyLogin_eq, h]
  simp only [hredeem]

/-- **What a login does**: it is refused before its token is used up, or its token is used up and
its proof is judged. -/
theorem verifyLogin_cases (v : LoginVerifier S) (registry : KeyRegistry) (store : ReplayStore)
    (token : String) (e : Envelope) (userId : String) (stored : Commitment) (now : Int64) :
    (∃ err, v.verifyLogin registry store token e userId stored now = (.error err, store))
      ∨ ∃ c key store', v.authorize registry token e userId stored now = .ok (c, key)
        ∧ TokenService.redeem store c = .ok store'
        ∧ v.verifyLogin registry store token e userId stored now
          = (v.judge key c e stored, store') := by
  cases hauthorize : v.authorize registry token e userId stored now with
  | error err => exact .inl ⟨err, verifyLogin_of_error hauthorize⟩
  | ok authorized =>
    obtain ⟨c, key⟩ := authorized
    cases hredeem : TokenService.redeem store c with
    | error err => exact .inl ⟨err, by rw [verifyLogin_eq, hauthorize]; simp only [hredeem]⟩
    | ok store' =>
      exact .inr ⟨c, key, store', rfl, hredeem, verifyLogin_of_redeem hauthorize hredeem⟩

/-- **A login succeeds exactly when it is authorized, its token can be used up, and its proof is
accepted.** -/
theorem verifyLogin_eq_ok_iff :
    (v.verifyLogin registry store token e userId stored now).1 = .ok c ↔ ∃ key,
      v.authorize registry token e userId stored now = .ok (c, key)
      ∧ (c.jti ≠ "" ∧ store.contains c.jti = false)
      ∧ S.verify key (v.inputs stored c.challenge) e.proof = .ok () := by
  constructor
  · intro h
    rcases v.verifyLogin_cases registry store token e userId stored now with
      ⟨err, hrefused⟩ | ⟨claims, key, store', hauthorize, hredeem, hjudged⟩
    · rw [hrefused] at h
      cases h
    · rw [hjudged] at h
      obtain ⟨hproof, rfl⟩ := judge_eq_ok_iff.mp h
      exact ⟨key, hauthorize, TokenService.exists_redeem_eq_ok_iff.mp ⟨store', hredeem⟩, hproof⟩
  · rintro ⟨key, hauthorize, hunused, hproof⟩
    obtain ⟨store', hredeem⟩ := TokenService.exists_redeem_eq_ok_iff.mpr hunused
    rw [verifyLogin_of_redeem hauthorize hredeem]
    exact judge_eq_ok_iff.mpr ⟨hproof, rfl⟩

/-- **The check of an age proof**, link by link, where the verifier has a key for age proofs. -/
theorem run_checkAge_of_some {K : Fingerprint} (hkey : v.ageKey = some (K, key)) (e : Envelope)
    (moment : Instant) (shared : Shared) : (v.checkAge e moment).run.run shared =
      (if e.circuit? ≠ some .age then .error .proofVerificationFailed
        else (PolicyBundle.of v.policy K).enforce e.vkId e.paramsVersion >>= fun _ =>
          if shared.registry.isValidAt K moment = false then .error (notTrusted K)
          else Except.mapError (fun _ => .proofVerificationFailed)
            (S.verify key (.age (.of v.policy)) e.proof), shared) := by
  rw [checkAge, hkey]
  simp only
  split
  case isTrue => rfl
  case isFalse =>
    rw [Outcome.run_lift_bind]
    cases (PolicyBundle.of v.policy K).enforce e.vkId e.paramsVersion with
    | error err => rfl
    | ok =>
      simp only [Outcome.run_get_bind, Outcome.ok_bind]
      split
      · rfl
      · cases S.verify key (.age (.of v.policy)) e.proof <;> rfl

/-- **The check of an age proof leaves everything as it is**, and does not ask which tokens have
been used. -/
theorem run_checkAge (v : LoginVerifier S) (e : Envelope) (moment : Instant) (shared : Shared) :
    (v.checkAge e moment).run.run shared = (v.verifyAge shared.registry e moment, shared) := by
  cases hkey : v.ageKey with
  | none =>
    rw [verifyAge, checkAge, hkey]
    rfl
  | some k => rw [verifyAge, run_checkAge_of_some hkey, run_checkAge_of_some hkey]

/-! ## What the chain amounts to -/

section Transparent

variable {v : LoginVerifier} {key : VerifyingKey}

/-- **A login that everything agrees on**: the verifier, the registry, the envelope, the token, the
stored commitment and the proof all speak of the key `K`, the policy of the verifier, the user and
one challenge. -/
structure Admits (v : LoginVerifier) (registry : KeyRegistry) (store : ReplayStore)
    (token : String) (e : Envelope) (userId : String) (stored : Commitment) (now : Int64)
    (c : Claims) (K : Fingerprint) : Prop where
  token_ne : token ≠ ""
  userId_ne : userId ≠ ""
  proofVersion_eq : e.proofVersion = "auth-proof-v1"
  /-- The key is registered and has not expired. -/
  valid : registry.isValidAt K (.ofUnix now) = true
  /-- The envelope names the key exactly, or names none where the key is the active one. -/
  names : e.vkId = K.toHex ∨ e.vkId = "" ∧ registry.active = some K
  paramsVersion_eq : e.paramsVersion = "" ∨ e.paramsVersion = v.policy.version
  /-- The token carries the claims under the key that it selects. -/
  signs : Token.Signs v.tokens.keys token c
  now_lt : now < c.expiresAt
  claims_vkId_eq : c.vkId = K.toHex
  claims_paramsVersion_eq : c.paramsVersion = v.policy.version
  claims_version_eq : c.version = "" ∨ c.version = "ct-v1"
  claims_userId_eq : c.userId = userId
  commitment_eq : ∀ text, e.commitment = some text → text = stored.value.toDecimal
  salt_eq : ∀ text, e.salt = some text → Salt.ofHex text = .ok stored.salt
  jti_ne : c.jti ≠ ""
  unused : store.contains c.jti = false
  /-- The verifier holds the key, and the proof is its keyed digest of the public inputs. -/
  proof_eq : ∃ key, v.authKey? K = some key ∧ e.proof =
    0x01 :: (Hmac.hash key.material.seed.toBytes (key.material.digest.toBytes
      ++ (v.inputs stored c.challenge).canonicalBytes)).toBytes

/-- The version of an envelope says which circuit it is for. -/
theorem circuit?_eq_some_iff {circuit : Circuit} :
    e.circuit? = some circuit ↔ e.proofVersion = circuit.proofVersion := by
  rw [Envelope.circuit?, Circuit.ofProofVersion?]
  constructor
  · intro h
    split at h
    case isTrue hversion => exact Option.some.inj h ▸ hversion
    case isFalse =>
      split at h
      case isTrue hversion => exact Option.some.inj h ▸ hversion
      case isFalse => cases h
  · intro h
    rw [h]
    cases circuit <;> decide

theorem circuit?_eq_auth_iff : e.circuit? = some .auth ↔ e.proofVersion = "auth-proof-v1" :=
  circuit?_eq_some_iff

/-- Of a login that succeeds there is a key that everything agrees on. -/
theorem WellFormed.exists_admits (hv : v.WellFormed)
    (h : (v.verifyLogin registry store token e userId stored now).1 = .ok c) :
    ∃ K, v.Admits registry store token e userId stored now c K := by
  obtain ⟨key, hauthorize, ⟨hjti, hunused⟩, haccepted⟩ := verifyLogin_eq_ok_iff.mp h
  obtain ⟨-, hproof⟩ := Transparent.verify_eq_ok_iff.mp haccepted
  obtain ⟨htoken, huser, hversion, K, hresolve, henforce, hvalidate, hclaims, hvalid, hkey,
    hpresented⟩ := authorize_eq_ok_iff.mp hauthorize
  obtain ⟨hname, hparams⟩ := enforce_eq_ok_iff.mp henforce
  obtain ⟨hsigns, hholds⟩ := TokenService.validate_eq_ok_iff.mp hvalidate
  obtain ⟨hcommitment, hsalt⟩ := checkPresented_eq_ok_iff.mp hpresented
  have hpolicy := hholds.paramsVersion_eq
  rw [hv.paramsVersion_eq] at hpolicy
  exact ⟨K, {
    token_ne := htoken
    userId_ne := huser
    proofVersion_eq := circuit?_eq_auth_iff.mp hversion
    valid := hvalid
    names := ((resolveKey_eq_ok_iff hvalid hname).mp hresolve).2
    paramsVersion_eq := hparams
    signs := hsigns
    now_lt := hholds.now_lt
    claims_vkId_eq := hholds.vkId_eq.resolve_left K.toHex_ne_empty
    claims_paramsVersion_eq := hpolicy.resolve_left (Hex.encode_bytes32_ne_empty _)
    claims_version_eq := hholds.version_eq
    claims_userId_eq := hclaims
    commitment_eq := hcommitment
    salt_eq := hsalt
    jti_ne := hjti
    unused := hunused
    proof_eq := ⟨key, hkey, hproof⟩ }⟩

/-- The token of a login that everything agrees on is valid for its key. -/
theorem Admits.validate_eq_ok {K : Fingerprint} (hv : v.WellFormed)
    (h : v.Admits registry store token e userId stored now c K) :
    v.tokens.validate token now K.toHex = .ok c :=
  TokenService.validate_eq_ok_iff.mpr ⟨h.signs, h.now_lt, .inr h.claims_vkId_eq,
    .inr (h.claims_paramsVersion_eq.trans hv.paramsVersion_eq.symm), h.claims_version_eq⟩

/-- A login that everything agrees on succeeds. -/
theorem Admits.verifyLogin_eq_ok {K : Fingerprint} (hv : v.WellFormed)
    (h : v.Admits registry store token e userId stored now c K) :
    (v.verifyLogin registry store token e userId stored now).1 = .ok c := by
  obtain ⟨key, hkey, hproof⟩ := h.proof_eq
  have hname : e.vkId = "" ∨ e.vkId = K.toHex := h.names.elim .inr fun h => .inl h.1
  have hresolve := (resolveKey_eq_ok_iff h.valid hname).mpr
    ⟨holds_iff.mpr ⟨key, hkey⟩, h.names⟩
  have hauthorize := authorize_eq_ok_iff.mpr ⟨h.token_ne, h.userId_ne,
    circuit?_eq_auth_iff.mpr h.proofVersion_eq, K, hresolve,
    enforce_eq_ok_iff.mpr ⟨hname, h.paramsVersion_eq⟩,
    h.validate_eq_ok hv, h.claims_userId_eq, h.valid, hkey,
    checkPresented_eq_ok_iff.mpr ⟨h.commitment_eq, h.salt_eq⟩⟩
  exact verifyLogin_eq_ok_iff.mpr ⟨key, hauthorize, ⟨h.jti_ne, h.unused⟩,
    Transparent.verify_eq_ok_iff.mpr ⟨(hv.circuit_of_authKey? hkey).symm, hproof⟩⟩

/-- **A login is admitted exactly when there is one key that everything agrees on**, by every
verifier that can be built, in every state of the registry and of the store. -/
theorem verifyLogin_eq_ok_iff_admits (hv : v.Built) :
    (v.verifyLogin registry store token e userId stored now).1 = .ok c ↔
      ∃ K, v.Admits registry store token e userId stored now c K :=
  ⟨hv.wellFormed.exists_admits, fun ⟨_, h⟩ => h.verifyLogin_eq_ok hv.wellFormed⟩

end Transparent

end LoginVerifier

/-! ## A login -/

namespace LoginVerifier

/-- The key of a seed of zeros. -/
def sampleKey : VerifyingKey := ⟨.ofSeed .auth ⟨List.replicate 32 0, by decide⟩⟩

/-- A verifier with one key. -/
def sample : LoginVerifier :=
  ⟨.default, [(sampleKey.fingerprint, sampleKey)], none, .sample⟩

theorem of_eq_ok {key : VerifyingKey} {policy : Policy} {tokens : TokenService}
    (hpolicy : policy.validate = .ok ()) (hcircuit : key.circuit = .auth)
    (hversion : tokens.paramsVersion = policy.version) :
    LoginVerifier.of (S := .transparent) key policy .development tokens
      = .ok ⟨policy, [(key.fingerprint, key)], none, tokens⟩ := by
  rw [LoginVerifier.of, hpolicy, requireCircuit_eq_ok_iff.mpr hcircuit]
  change (if tokens.paramsVersion = policy.version then _ else _) = _
  rw [if_pos hversion]
  rfl

theorem built_sample : Built sample :=
  .of (of_eq_ok rfl rfl rfl)

/-- A registry that trusts the key, which is active, for good. -/
def sampleRegistry : KeyRegistry :=
  ⟨[⟨"1", sampleKey.fingerprint, sampleKey.fingerprint, .epoch, none, true⟩],
    some sampleKey.fingerprint, 0⟩

/-- A login that names neither key nor policy and presents nothing but its proof. -/
def sampleEnvelope (stored : Commitment) : Envelope where
  proof := Transparent.proofOf sampleKey.material (sample.inputs stored 7)
  proofVersion := Circuit.auth.proofVersion
  vkId := ""
  paramsVersion := ""
  commitment := none
  salt := none

theorem admits_sample (stored : Commitment) :
    sample.Admits sampleRegistry (.memory []) (Token.sample sampleKey.fingerprint.toHex)
      (sampleEnvelope stored) "alice" stored 0 (.sample sampleKey.fingerprint.toHex)
      sampleKey.fingerprint where
  token_ne := Token.ofPayload_ne_empty _ _
  userId_ne := by decide
  proofVersion_eq := rfl
  valid := by
    simp [KeyRegistry.isValidAt, KeyRegistry.find?, sampleRegistry, KeyVersion.isExpiredAt]
  names := .inr ⟨rfl, rfl⟩
  paramsVersion_eq := .inl rfl
  signs := Token.signs_sample _
  now_lt := by decide
  claims_vkId_eq := rfl
  claims_paramsVersion_eq := rfl
  claims_version_eq := .inl rfl
  claims_userId_eq := rfl
  commitment_eq := fun _ h => by cases h
  salt_eq := fun _ h => by cases h
  jti_ne := by decide
  unused := rfl
  proof_eq := ⟨sampleKey, by simp [authKey?, sample], rfl⟩

/-- The login with the token of the claims is admitted. -/
theorem verifyLogin_sample :
    (sample.verifyLogin sampleRegistry (.memory []) (Token.sample sampleKey.fingerprint.toHex)
      (sampleEnvelope ⟨.ofNat 5, ⟨List.replicate 8 0, by decide⟩⟩) "alice"
      ⟨.ofNat 5, ⟨List.replicate 8 0, by decide⟩⟩ 0).1
        = .ok (.sample sampleKey.fingerprint.toHex) :=
  (verifyLogin_eq_ok_iff_admits built_sample).mpr ⟨_, admits_sample _⟩

end LoginVerifier

end ProofLogin
