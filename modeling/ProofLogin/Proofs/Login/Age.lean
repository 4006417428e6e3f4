import ProofLogin.Proofs.Login.Provability
import ProofLogin.Proofs.Login.Refusal

/-!
# Proofs/Login/Age — which age proofs are admitted

    circuit? ──▸ enforce ──▸ isValidAt ──▸ verify

An age proof goes a way of its own: the key is the one that the verifier was given for age proofs
and not the active one, there is no token, and nothing is used up.  `AdmitsAge` is what the chain
amounts to over the transparent system.  A verifier is given no key but for its circuit, so that its
age key accepts the proof of `Transparent.proofOf` and no other (`Built.ageKey`).

That nothing is used up is a fact about one check (`Call.run_verifyAge`), and from it about whole
runs: among other calls, in whatever order, age checks leave no trace
(`Deployment.run_without_ageChecks`).
-/

namespace ProofLogin

namespace LoginVerifier

variable {S : ProofSystem} {v : LoginVerifier S} {registry : KeyRegistry} {e : Envelope}
  {moment : Instant} {K : Fingerprint} {key : S.VerifyingKey}

/-! ## The chain of checks -/

/-- **The age key is for age proofs**, and is held under its own name. -/
theorem Built.ageKey (hv : v.Built) :
    ∀ k ∈ v.ageKey, S.verifyingCircuit k.2 = .age ∧ k.1 = S.fingerprint k.2 := by
  induction hv with
  | of h =>
    obtain ⟨-, -, h⟩ := Outcome.bind_eq_ok.mp h
    obtain ⟨-, -, h⟩ := Outcome.bind_eq_ok.mp h
    obtain ⟨-, -, h⟩ := Outcome.bind_eq_ok.mp h
    obtain ⟨-, h⟩ := Outcome.ite_ok_eq_ok.mp h
    obtain rfl := Outcome.pure_eq_ok.mp h
    exact fun _ hk => nomatch hk
  | withKey _ h ih =>
    obtain ⟨⟨⟩, -, h⟩ := Outcome.bind_eq_ok.mp h
    obtain rfl := Outcome.pure_eq_ok.mp h
    exact ih
  | withAgeKey _ h =>
    obtain ⟨⟨⟩, hcircuit, h⟩ := Outcome.bind_eq_ok.mp h
    obtain rfl := Outcome.pure_eq_ok.mp h
    have hcircuit := requireCircuit_eq_ok_iff.mp (Outcome.mapError_eq_ok.mp hcircuit)
    exact fun _ hk => Option.some.inj hk ▸ ⟨hcircuit, rfl⟩

theorem verifyAge_of_none (hkey : v.ageKey = none) : v.verifyAge registry e moment
    = .error (.keyNotTrusted "no age verifying key configured") := by
  rw [verifyAge, checkAge, hkey]
  rfl

/-- **An age proof is admitted exactly when every check passes**, with the age key of the
verifier. -/
theorem verifyAge_eq_ok_iff (hkey : v.ageKey = some (K, key)) :
    v.verifyAge registry e moment = .ok () ↔
      e.circuit? = some .age
        ∧ (PolicyBundle.of v.policy K).enforce e.vkId e.paramsVersion = .ok ()
        ∧ registry.isValidAt K moment = true
        ∧ S.verify key (.age (.of v.policy)) e.proof = .ok () := by
  rw [verifyAge, run_checkAge_of_some hkey]
  simp only [Outcome.ite_error_eq_ok, Outcome.bind_eq_ok, Outcome.mapError_eq_ok, ne_eq, not_not,
    Bool.not_eq_false]
  constructor
  · rintro ⟨hcircuit, ⟨⟩, henforce, hvalid, hverify⟩
    exact ⟨hcircuit, henforce, hvalid, hverify⟩
  · rintro ⟨hcircuit, henforce, hvalid, hverify⟩
    exact ⟨hcircuit, (), henforce, hvalid, hverify⟩

/-- An age proof says of itself that it is one. -/
theorem circuit?_of_verifyAge (h : v.verifyAge registry e moment = .ok ()) :
    e.circuit? = some .age := by
  cases hkey : v.ageKey with
  | none =>
    rw [verifyAge_of_none hkey] at h
    cases h
  | some k =>
    obtain ⟨K, key⟩ := k
    exact ((verifyAge_eq_ok_iff hkey).mp h).1

/-- **What is admitted as an age proof is never a login**, whichever verifiers, registries, tokens
and users it is shown to. -/
theorem verifyLogin_ne_ok_of_verifyAge (h : v.verifyAge registry e moment = .ok ())
    {S' : ProofSystem} (w : LoginVerifier S') (registry' : KeyRegistry) (store : ReplayStore)
    (token userId : String) (stored : Commitment) (now : Int64) (c : Claims) :
    (w.verifyLogin registry' store token e userId stored now).1 ≠ .ok c := by
  intro hlogin
  obtain ⟨key, hauthorize, -⟩ := verifyLogin_eq_ok_iff.mp hlogin
  obtain ⟨-, -, hcircuit, -⟩ := authorize_eq_ok_iff.mp hauthorize
  cases (circuit?_of_verifyAge h).symm.trans hcircuit

section Transparent

variable {v : LoginVerifier} {key : VerifyingKey}

/-- **An age proof that everything agrees on**: the verifier, the registry and the envelope speak of
the key `K` and of the policy of the verifier. -/
structure AdmitsAge (v : LoginVerifier) (registry : KeyRegistry) (e : Envelope) (moment : Instant)
    (K : Fingerprint) (key : VerifyingKey) : Prop where
  proofVersion_eq : e.proofVersion = "age-proof-v1"
  vkId_eq : e.vkId = "" ∨ e.vkId = K.toHex
  paramsVersion_eq : e.paramsVersion = "" ∨ e.paramsVersion = v.policy.version
  /-- The key is registered and has not expired. -/
  valid : ∃ version, registry.find? K = some version ∧ version.isExpiredAt moment = false
  /-- The proof is the keyed digest of the years of the policy. -/
  proof_eq : e.proof = 0x01 :: (Hmac.hash key.material.seed.toBytes (key.material.digest.toBytes
    ++ (PublicInputs.age (.of v.policy)).canonicalBytes)).toBytes

/-- **An age proof is admitted exactly when everything agrees on the age key.** -/
theorem verifyAge_eq_ok_iff_admitsAge (hv : v.Built) (hkey : v.ageKey = some (K, key)) :
    v.verifyAge registry e moment = .ok () ↔ v.AdmitsAge registry e moment K key := by
  have hcircuit : (PublicInputs.age (.of v.policy)).circuit = key.circuit :=
    (hv.ageKey _ hkey).1.symm
  rw [verifyAge_eq_ok_iff hkey, circuit?_eq_some_iff, enforce_eq_ok_iff,
    KeyRegistry.isValidAt_iff_exists, Transparent.verify_eq_ok_iff, and_iff_right hcircuit]
  constructor
  · rintro ⟨hversion, ⟨hname, hparams⟩, hvalid, hproof⟩
    exact ⟨hversion, hname, hparams, hvalid, hproof⟩
  · rintro ⟨hversion, hname, hparams, hvalid, hproof⟩
    exact ⟨hversion, ⟨hname, hparams⟩, hvalid, hproof⟩

end Transparent

end LoginVerifier

/-! ## Age proofs that are made -/

namespace LoginProver

variable {p : LoginProver} {v : LoginVerifier} {K : Fingerprint} {key : VerifyingKey}
  {birthYear : Int32} {e : Envelope}

/-- **The prover can make age proofs for the verifier**: it has the proving key of the age key, the
name of that key, and a bundle of the same policy. -/
structure MatchesAge (p : LoginProver) (v : LoginVerifier) (K : Fingerprint) (key : VerifyingKey) :
    Prop where
  built : p.Built
  ageKey_eq : p.ageKey = some (⟨key.material⟩, K)
  config_eq : p.bundle.config = v.policy

/-- The envelope of an age proof. -/
def ageEnvelope (v : LoginVerifier) (K : Fingerprint) (key : VerifyingKey) : Envelope where
  proof := Transparent.proofOf key.material (.age (.of v.policy))
  proofVersion := Circuit.age.proofVersion
  vkId := K.toHex
  paramsVersion := v.policy.version
  commitment := none
  salt := none

/-- **The envelope is admitted exactly while the key is valid.** -/
theorem admitsAge_ageEnvelope_iff {registry : KeyRegistry} {moment : Instant} :
    v.AdmitsAge registry (ageEnvelope v K key) moment K key
      ↔ registry.isValidAt K moment = true := by
  rw [KeyRegistry.isValidAt_iff_exists]
  exact ⟨LoginVerifier.AdmitsAge.valid, fun hvalid => ⟨rfl, .inr rfl, .inr rfl, hvalid, rfl⟩⟩

/-- **An age proof can be made exactly by who is of age**, and says nothing about the year. -/
theorem MatchesAge.proveAge_eq_ok_iff (h : p.MatchesAge v K key) :
    p.proveAge birthYear = .ok e ↔
      v.policy.limitAge.toInt ≤ v.policy.targetYear.toInt - birthYear.toInt
        ∧ e = ageEnvelope v K key := by
  have hcircuit : (PublicInputs.age (.of v.policy)).circuit = key.material.circuit :=
    (h.built.wellFormed.ageCircuit_eq _ h.ageKey_eq).symm
  have hcheck : Circuit.check (.age (.of v.policy)) (.age birthYear) = .ok () ↔
      v.policy.limitAge.toInt ≤ v.policy.targetYear.toInt - birthYear.toInt := by
    rw [Circuit.check, Outcome.ite_ok_eq_ok, and_iff_left rfl]
    exact Circuit.isOfAge_iff
  have hparams : p.bundle.paramsVersion = v.policy.version :=
    h.config_eq ▸ h.built.wellFormed.paramsVersion_eq
  rw [proveAge, h.ageKey_eq, h.config_eq, hparams, ← hcheck]
  simp only [Outcome.bind_eq_ok, Outcome.mapError_eq_ok, Outcome.pure_eq_ok,
    Transparent.prove_eq_ok_iff]
  constructor
  · rintro ⟨proof, ⟨⟨-, hcheck⟩, rfl⟩, rfl⟩
    exact ⟨hcheck, rfl⟩
  · rintro ⟨hcheck, rfl⟩
    exact ⟨_, ⟨⟨hcircuit, hcheck⟩, rfl⟩, rfl⟩

end LoginProver

/-! ## Age checks between calls -/

namespace Call

variable {s : TokenService}

/-- The call is an age check. -/
def isAgeCheck : Call s → Bool
  | .verifyAge .. => true
  | _ => false

end Call

/-- The answer is one to an age check. -/
def Answer.isAge : Answer → Bool
  | .age _ => true
  | _ => false

theorem Call.isAge_run {s : TokenService} (call : Call s) (d : Deployment) :
    (call.run d).1.isAge = call.isAgeCheck := by
  cases call with
  | consume token now vkId =>
    rw [run]
    split <;> rfl
  | issue | issueFor | issueChallenge | validate | verifyLogin | verifyAge | manage | cleanup => rfl

namespace Deployment

variable {s : TokenService}

/-- **Age checks leave no trace**: the calls between which they come are answered, and leave the
registries and the store, as if there were no age checks. -/
theorem run_without_ageChecks (d : Deployment) (calls : List (Call s)) :
    d.runAll calls = d.runAll (calls.filter fun call => !call.isAgeCheck)
      ∧ (d.answers calls).filter (fun answer => !answer.isAge)
        = d.answers (calls.filter fun call => !call.isAgeCheck) := by
  induction calls generalizing d with
  | nil => exact ⟨rfl, rfl⟩
  | cons call calls ih =>
    cases hage : call.isAgeCheck with
    | false =>
      obtain ⟨hrun, hanswers⟩ := ih (call.run d).2
      rw [List.filter_cons_of_pos (by simp [hage])]
      refine ⟨hrun, ?_⟩
      simp only [answers, List.filter_cons, call.isAge_run, hage, Bool.not_false, if_true, hanswers]
    | true =>
      cases call with
      | verifyAge v registry e moment =>
        have hstep := Call.run_verifyAge d v registry e moment
        obtain ⟨hrun, hanswers⟩ := ih d
        rw [List.filter_cons_of_neg (by simp [hage]), answers_cons_of_run hstep]
        refine ⟨?_, hanswers⟩
        rw [runAll, List.foldl_cons, hstep]
        exact hrun
      | _ => cases hage

end Deployment

/-! ## Age admission -/

namespace LoginVerifier

/-- **Age admission is exact and stateless.**  A verifier with an age key admits an age proof
exactly when everything agrees on that key, in every state of the registry.  The check leaves the
registries and the store as they are, so that among other calls age checks change nothing that
anything else depends on.  A prover with the proving key makes an age proof for exactly the years of
birth that the policy allows, over the integers, and its proof is admitted exactly at the moments at
which the key is valid.  And no envelope is both an age proof and a login. -/
theorem age_admission {v : LoginVerifier} {K : Fingerprint} {key : VerifyingKey} (hv : v.Built)
    (hkey : v.ageKey = some (K, key)) :
    (∀ registry e moment,
        v.verifyAge registry e moment = .ok () ↔ v.AdmitsAge registry e moment K key)
      ∧ (∀ d registry e moment,
        (Call.verifyAge (s := v.tokens) ⟨.transparent, v, rfl⟩ registry e moment).run d
          = (.age (v.verifyAge (d.registries registry) e moment), d))
      ∧ (∀ (d : Deployment) (calls : List (Call v.tokens)),
        d.runAll calls = d.runAll (calls.filter fun call => !call.isAgeCheck)
          ∧ (d.answers calls).filter (fun answer => !answer.isAge)
            = d.answers (calls.filter fun call => !call.isAgeCheck))
      ∧ (∀ p : LoginProver, p.MatchesAge v K key → ∀ birthYear,
        ((∃ e, p.proveAge birthYear = .ok e)
            ↔ v.policy.limitAge.toInt ≤ v.policy.targetYear.toInt - birthYear.toInt)
          ∧ ∀ e, p.proveAge birthYear = .ok e → ∀ registry moment,
            v.verifyAge registry e moment = .ok () ↔ registry.isValidAt K moment = true)
      ∧ ∀ registry e moment, v.verifyAge registry e moment = .ok () →
        ∀ (S : ProofSystem) (w : LoginVerifier S) registry' store token userId stored now c,
          (w.verifyLogin registry' store token e userId stored now).1 ≠ .ok c := by
  refine ⟨fun registry e moment => verifyAge_eq_ok_iff_admitsAge hv hkey,
    fun d registry e moment => Call.run_verifyAge d _ registry e moment,
    fun d calls => d.run_without_ageChecks calls, fun p hp birthYear => ⟨⟨?_, ?_⟩, ?_⟩,
    fun registry e moment h S w => verifyLogin_ne_ok_of_verifyAge h w⟩
  · rintro ⟨e, he⟩
    exact (hp.proveAge_eq_ok_iff.mp he).1
  · exact fun hage => ⟨_, hp.proveAge_eq_ok_iff.mpr ⟨hage, rfl⟩⟩
  · intro e he registry moment
    obtain ⟨-, rfl⟩ := hp.proveAge_eq_ok_iff.mp he
    rw [verifyAge_eq_ok_iff_admitsAge hv hkey]
    exact LoginProver.admitsAge_ageEnvelope_iff

/-- The age key of the seed of the login key. -/
def sampleAgeKey : VerifyingKey := ⟨.ofSeed .age sampleKey.material.seed⟩

/-- A verifier with a login key and an age key. -/
def sampleAge : LoginVerifier :=
  { sample with ageKey := some (sampleAgeKey.fingerprint, sampleAgeKey) }

/-- A prover for that verifier. -/
def sampleAgeProver : LoginProver :=
  { LoginProver.sample with ageKey := some (⟨sampleAgeKey.material⟩, sampleAgeKey.fingerprint) }

/-- A registry that trusts the age key up to the epoch. -/
def sampleAgeRegistry : KeyRegistry :=
  ⟨[⟨"1", sampleAgeKey.fingerprint, sampleAgeKey.fingerprint, .epoch, some .epoch, true⟩],
    some sampleAgeKey.fingerprint, 0⟩

/-- Who was born in 2005 has an age proof, which is admitted up to the epoch and not a second
later. -/
theorem age_admission_sample :
    ∃ e, sampleAgeProver.proveAge 2005 = .ok e
      ∧ sampleAge.verifyAge sampleAgeRegistry e (.ofUnix 0) = .ok ()
      ∧ sampleAge.verifyAge sampleAgeRegistry e (.ofUnix 1) ≠ .ok () := by
  have hverifier : sample.withAgeKey sampleAgeKey = .ok sampleAge := rfl
  have hbuilt : sampleAge.Built := .withAgeKey built_sample hverifier
  have hprover : LoginProver.sample.withAgeKey ⟨sampleAgeKey.material⟩ sampleAgeKey.fingerprint
      = .ok sampleAgeProver := rfl
  have hprover : sampleAgeProver.Built := .withAgeKey LoginProver.built_sample hprover
  obtain ⟨-, -, -, hmade, -⟩ := age_admission hbuilt rfl
  obtain ⟨hof, hadmitted⟩ := hmade sampleAgeProver ⟨hprover, rfl, rfl⟩ 2005
  obtain ⟨e, he⟩ := hof.mpr (by decide)
  have hvalid (moment : Instant) :
      sampleAgeRegistry.isValidAt sampleAgeKey.fingerprint moment = !decide (.epoch < moment) := by
    simp [KeyRegistry.isValidAt, KeyRegistry.find?, sampleAgeRegistry, KeyVersion.isExpiredAt]
  refine ⟨e, he, (hadmitted e he _ _).mpr ((hvalid _).trans (by decide)), fun h => ?_⟩
  exact absurd ((hvalid _).symm.trans ((hadmitted e he _ _).mp h)) (by decide)

end LoginVerifier

end ProofLogin
