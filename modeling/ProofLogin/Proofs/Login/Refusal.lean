import ProofLogin.Proofs.Login.Deployment

/-!
# Proofs/Login/Refusal — a login that is refused uses nothing up, unless its proof was judged

    authorize ──▸ redeem ──▸ judge
        │            │          │
        ▾            ▾          ▾
      as it was    as it was    one identifier more

A login is refused at one of three places (`verifyLogin_cases`), and only the last one is behind the
use of the token.  Who gets there has passed every other check (`WellFormed.claims_of_authorize`),
and would be admitted with any proof that the key accepts (`verifyLogin_of_accepted`).
`refused_login` says what this means for the deployment and for all calls to come, whatever the
proof system is.
-/

namespace ProofLogin

namespace LoginVerifier

variable {S : ProofSystem} {v : LoginVerifier S} {registry : KeyRegistry} {store : ReplayStore}
  {token userId : String} {e : Envelope} {stored : Commitment} {now : Int64} {c : Claims}
  {key : S.VerifyingKey} {err : LoginError}

/-- **A proof that is judged and refused is not accepted by the key**, and there is one error for
it. -/
theorem judge_eq_error (h : v.judge key c e stored = .error err) :
    err = .proofVerificationFailed
      ∧ S.verify key (v.inputs stored c.challenge) e.proof ≠ .ok () := by
  constructor
  · rw [judge] at h
    split at h
    case h_1 => exact (Except.error.inj h).symm
    case h_2 => cases h
  · intro haccepted
    rw [judge_eq_ok_iff.mpr ⟨haccepted, rfl⟩] at h
    cases h

/-- **What the token of an authorized login says**: it holds now for the user, the policy and a key
that the verifier holds and the registry trusts. -/
theorem WellFormed.claims_of_authorize (hv : v.WellFormed)
    (h : v.authorize registry token e userId stored now = .ok (c, key)) :
    ∃ K, v.tokens.validate token now K.toHex = .ok c ∧ c.userId = userId
      ∧ c.paramsVersion = v.policy.version ∧ v.authKey? K = some key
      ∧ registry.isValidAt K (.ofUnix now) = true := by
  obtain ⟨-, -, -, K, -, -, hvalidate, huser, hvalid, hkey, -⟩ := authorize_eq_ok_iff.mp h
  obtain ⟨-, hholds⟩ := TokenService.validate_eq_ok_iff.mp hvalidate
  have hpolicy := hholds.paramsVersion_eq
  rw [hv.paramsVersion_eq] at hpolicy
  exact ⟨K, hvalidate, huser, hpolicy.resolve_left (Hex.encode_bytes32_ne_empty _), hkey, hvalid⟩

/-- **With a proof that the key accepts an authorized login is admitted**, since nothing but the
judgement looks at the proof. -/
theorem verifyLogin_of_accepted
    (hauthorize : v.authorize registry token e userId stored now = .ok (c, key))
    (hunused : c.jti ≠ "" ∧ store.contains c.jti = false) {proof : Bytes}
    (haccepted : S.verify key (v.inputs stored c.challenge) proof = .ok ()) :
    (v.verifyLogin registry store token { e with proof } userId stored now).1 = .ok c := by
  have hsame : v.authorize registry token { e with proof } userId stored now
      = v.authorize registry token e userId stored now := rfl
  exact verifyLogin_eq_ok_iff.mpr ⟨key, hsame.trans hauthorize, hunused, haccepted⟩

end LoginVerifier

/-! ## What comes after -/

namespace Deployment

variable {s : TokenService} {d d' : Deployment}

/-- **The answers of calls, one after the other.** -/
def answers (d : Deployment) : List (Call s) → List Answer
  | [] => []
  | call :: calls => (call.run d).1 :: (call.run d).2.answers calls

/-- A call that leaves the deployment as it is, is as if it had not been made. -/
theorem answers_cons_of_run {call : Call s} {answer : Answer} (h : call.run d = (answer, d))
    (later : List (Call s)) : d.answers (call :: later) = answer :: d.answers later := by
  rw [answers, h]

/-- **A login that was refused for its proof alone**, after its token had been used up: every check
before the proof has passed, and with any proof that the key accepts the login would have been
admitted. -/
structure RefusedForProof (d d' : Deployment) (v : s.Verifier) (registry : Nat) (token : String)
    (e : Envelope) (userId : String) (stored : Commitment) (now : Int64) (c : Claims)
    (K : Fingerprint) (key : v.system.VerifyingKey) : Prop where
  /-- The identifier of the token has been added, and nothing else. -/
  store_eq : d'.store = .memory ((c.jti, c.expiresAt) :: d.store.entries)
  jti_ne : c.jti ≠ ""
  unused : d.store.contains c.jti = false
  authorize_eq : v.verifier.authorize (d.registries registry) token e userId stored now
    = .ok (c, key)
  /-- The token holds now, for the user, the key and the policy. -/
  validate_eq : s.validate token now K.toHex = .ok c
  userId_eq : c.userId = userId
  paramsVersion_eq : c.paramsVersion = v.verifier.policy.version
  authKey?_eq : v.verifier.authKey? K = some key
  valid : (d.registries registry).isValidAt K (.ofUnix now) = true
  not_accepted : v.system.verify key (v.verifier.inputs stored c.challenge) e.proof ≠ .ok ()
  admitted : ∀ proof, v.system.verify key (v.verifier.inputs stored c.challenge) proof = .ok () →
    (v.verifier.verifyLogin (d.registries registry) d.store token { e with proof } userId stored
      now).1 = .ok c

/-- **A login that is refused consumes nothing, unless its proof was judged.**  It leaves the
registries as they are.  Where it is refused for anything else than its proof, it leaves the store
as it is; otherwise it leaves the store as it is, or was refused for its proof alone.  Where the
store is as it was, it is as if the login had never been tried. -/
theorem refused_login {v : s.Verifier} (hv : v.verifier.Built) {registry : Nat}
    {token userId : String} {e : Envelope} {stored : Commitment} {now : Int64} {err : LoginError}
    (hrun : (Call.verifyLogin v registry token e userId stored now).run d
      = (.claims (.error err), d')) :
    d'.registries = d.registries
      ∧ (err ≠ .proofVerificationFailed → d'.store = d.store)
      ∧ (err = .proofVerificationFailed → d'.store = d.store
        ∨ ∃ c K key, RefusedForProof d d' v registry token e userId stored now c K key)
      ∧ (d'.store = d.store → d' = d ∧ ∀ later : List (Call s),
        d.answers (.verifyLogin v registry token e userId stored now :: later)
          = .claims (.error err) :: d.answers later) := by
  have hregistries : d'.registries = d.registries := by
    rw [Call.run_verifyLogin rfl] at hrun
    obtain ⟨-, rfl⟩ := Prod.mk.inj hrun
    rfl
  have hanswers (hstore : d'.store = d.store) : d' = d ∧ ∀ later : List (Call s),
      d.answers (.verifyLogin v registry token e userId stored now :: later)
        = .claims (.error err) :: d.answers later := by
    have hsame : d' = d := congrArg₂ Deployment.mk hregistries hstore
    exact ⟨hsame, answers_cons_of_run (hrun.trans (by rw [hsame]))⟩
  rcases v.verifier.verifyLogin_cases (d.registries registry) d.store token e userId stored now with
    ⟨err', hrefused⟩ | ⟨c, key, store', hauthorize, hredeem, hjudged⟩
  · rw [Call.run_verifyLogin hrefused] at hrun
    obtain ⟨-, rfl⟩ := Prod.mk.inj hrun
    exact ⟨hregistries, fun _ => rfl, fun _ => .inl rfl, hanswers⟩
  · rw [Call.run_verifyLogin hjudged] at hrun
    obtain ⟨hjudge, rfl⟩ := Prod.mk.inj hrun
    obtain ⟨herr, hnot⟩ := LoginVerifier.judge_eq_error (Answer.claims.inj hjudge)
    refine ⟨hregistries, fun hne => absurd herr hne, fun _ => ?_, hanswers⟩
    refine (TokenService.eq_or_eq_cons_of_redeem hredeem).imp_right fun hstore => ?_
    have hunused := TokenService.exists_redeem_eq_ok_iff.mp ⟨store', hredeem⟩
    obtain ⟨K, hvalidate, huser, hparams, hkey, hvalid⟩ :=
      hv.wellFormed.claims_of_authorize hauthorize
    rw [v.tokens_eq] at hvalidate
    exact ⟨c, K, key, {
      store_eq := hstore
      jti_ne := hunused.1
      unused := hunused.2
      authorize_eq := hauthorize
      validate_eq := hvalidate
      userId_eq := huser
      paramsVersion_eq := hparams
      authKey?_eq := hkey
      valid := hvalid
      not_accepted := hnot
      admitted := fun _ => LoginVerifier.verifyLogin_of_accepted hauthorize hunused }⟩

/-- A deployment whose registry trusts the key. -/
def sampleTrusting : Deployment := ⟨fun _ => LoginVerifier.sampleRegistry, .memory []⟩

/-- A commitment, whatever is behind it. -/
def sampleStored : Commitment := ⟨.ofNat 5, ⟨List.replicate 8 0, by decide⟩⟩

/-- A login without a proof. -/
def sampleRefused (token : String) : Call .sample :=
  .verifyLogin ⟨.transparent, .sample, rfl⟩ 0 token
    { LoginVerifier.sampleEnvelope sampleStored with proof := [] } "alice" sampleStored 0

theorem run_sampleRefused :
    (sampleRefused (Token.sample LoginVerifier.sampleKey.fingerprint.toHex)).run sampleTrusting
      = (.claims (.error .proofVerificationFailed),
        { sampleTrusting with store := .memory [("j1", 100)] }) := by
  obtain ⟨key, hauthorize, -⟩ := LoginVerifier.verifyLogin_eq_ok_iff.mp
    ((LoginVerifier.admits_sample sampleStored).verifyLogin_eq_ok
      LoginVerifier.built_sample.wellFormed)
  have hauthorize' : LoginVerifier.sample.authorize LoginVerifier.sampleRegistry
      (Token.sample LoginVerifier.sampleKey.fingerprint.toHex)
      { LoginVerifier.sampleEnvelope sampleStored with proof := [] } "alice" sampleStored 0
        = .ok (.sample LoginVerifier.sampleKey.fingerprint.toHex, key) := hauthorize
  have hredeem : TokenService.redeem sampleTrusting.store
      (.sample LoginVerifier.sampleKey.fingerprint.toHex) = .ok (.memory [("j1", 100)]) := rfl
  exact Call.run_verifyLogin (LoginVerifier.verifyLogin_of_redeem hauthorize' hredeem)

/-- Without a proof the token is used up; without a token nothing is. -/
theorem refused_login_sample :
    (∃ c K, ((sampleRefused (Token.sample LoginVerifier.sampleKey.fingerprint.toHex)).run
        sampleTrusting).2.store = .memory [(c.jti, c.expiresAt)]
      ∧ TokenService.sample.validate (Token.sample LoginVerifier.sampleKey.fingerprint.toHex) 0
        (Fingerprint.toHex K) = .ok c)
      ∧ ∀ later, sampleTrusting.answers (sampleRefused "" :: later)
        = .claims (.error (.missingArguments "token")) :: sampleTrusting.answers later := by
  constructor
  · obtain ⟨-, -, hjudged, -⟩ := refused_login LoginVerifier.built_sample run_sampleRefused
    obtain hstore | ⟨c, K, key, h⟩ := hjudged rfl
    · cases hstore
    · exact ⟨c, K, run_sampleRefused ▸ h.store_eq, h.validate_eq⟩
  · have hrun : (sampleRefused "").run sampleTrusting
        = (.claims (.error (.missingArguments "token")), sampleTrusting) :=
      Call.run_verifyLogin (LoginVerifier.verifyLogin_of_error rfl)
    exact ((refused_login LoginVerifier.built_sample hrun).2.2.2 rfl).2

end Deployment

end ProofLogin
