import ProofLogin.Login.Prover
import ProofLogin.Proofs.Commitment.Derivation
import ProofLogin.Proofs.Outcome
import ProofLogin.Proofs.Proof.Transparent

/-!
# Proofs/Login/Prover — who knows the secret and is of age can log in

    secret, salt  ──deriveWith──▸  derived  ──ofDerived──▸  commitment  ──prove──▸  envelope

Under a valid policy nothing stops the derivation but a length (`Commitment.exists_deriveWith`), and
what has been derived satisfies the statement it is put into (`Circuit.check_auth`).  So a prover
always has the envelope of `LoginProver.proveLogin_eq_ok`, which is made for the very commitment
that was stored (`Commitment.commit_eq_ok`).  A prover that can be `Built` has no key but for the
circuit it is used for, and the version of its own policy (`Built.wellFormed`).
-/

namespace ProofLogin

/-! ## Derived secrets -/

theorem Policy.kdf_validate {policy : Policy} (h : policy.validate = .ok ()) :
    policy.kdf.validate = .ok () := by
  rw [validate, Outcome.ite_error_eq_ok, Outcome.ite_error_eq_ok] at h
  exact h.2.2

namespace Commitment

variable {secret : Bytes} {text : String} {salt : Salt} {policy : Policy} {derived : FieldElement}

/-- **A secret can be derived** under every valid policy, if it and the salt are not too long. -/
theorem exists_deriveWith (hpolicy : policy.validate = .ok ())
    (hsecret : secret.length < Argon2id.lengthLimit)
    (hsalt : salt.octets.length < Argon2id.lengthLimit) :
    ∃ derived, deriveWith secret salt policy = .ok derived := by
  rw [deriveWith_eq hsecret hsalt, policy.kdf_validate hpolicy]
  exact ⟨_, rfl⟩

theorem commit_eq_ok (htext : Salt.ofHex text = .ok salt)
    (hderived : deriveWith secret salt policy = .ok derived) :
    commit secret text policy = .ok (ofDerived derived salt) := by
  rw [commit_of_ofHex htext]
  exact Outcome.map_eq_ok.mpr ⟨derived, hderived, rfl⟩

end Commitment

/-! ## Envelopes -/

theorem Circuit.isOfAge_iff {targetYear limitAge birthYear : Int32} :
    isOfAge targetYear limitAge birthYear = true
      ↔ limitAge.toInt ≤ targetYear.toInt - birthYear.toInt :=
  decide_eq_true_iff

/-- **Of what has been derived from the secret only the age can fail the statement**: the commitment
and the binding are the ones that the circuit makes again. -/
theorem Circuit.check_auth_eq {derived : FieldElement} {salt : Salt} {challenge : UInt64}
    {policy : Policy} {birthYear : Int32} :
    check (.auth (.of (Commitment.ofDerived derived salt) salt challenge policy))
        (.auth derived birthYear)
      = if isOfAge policy.targetYear policy.limitAge birthYear then .ok () else .error .age := by
  rw [check]
  refine (if_neg (not_not.mpr rfl)).trans ?_
  exact if_neg (not_not.mpr rfl)

theorem Circuit.check_auth {derived : FieldElement} {salt : Salt} {challenge : UInt64}
    {policy : Policy} {birthYear : Int32}
    (hage : isOfAge policy.targetYear policy.limitAge birthYear = true) :
    check (.auth (.of (Commitment.ofDerived derived salt) salt challenge policy))
      (.auth derived birthYear) = .ok () :=
  check_auth_eq.trans (if_pos hage)

namespace LoginProver

variable {S : ProofSystem} {p : LoginProver S} {key : S.ProvingKey} {bundle : PolicyBundle}
  {secret : Bytes} {text : String} {salt : Salt} {derived : FieldElement} {challenge : UInt64}
  {birthYear : Int32}

/-- **The provers that there are**: made of a login key and a consistent bundle, and then given keys
for age proofs. -/
inductive Built : LoginProver S → Prop
  | of {key : S.ProvingKey} {bundle : PolicyBundle} {p : LoginProver S}
      (h : LoginProver.of key bundle = .ok p) : Built p
  | withAgeKey {p q : LoginProver S} {key : S.ProvingKey} {vkId : Fingerprint} (hp : Built p)
      (h : p.withAgeKey key vkId = .ok q) : Built q

/-- **Each key is for its circuit**, and the version is the one of the policy. -/
structure WellFormed (p : LoginProver S) : Prop where
  circuit_eq : S.provingCircuit p.authKey = .auth
  paramsVersion_eq : p.bundle.paramsVersion = p.bundle.config.version
  ageCircuit_eq : ∀ k ∈ p.ageKey, S.provingCircuit k.1 = .age

/-- **Every prover that can be built is well formed.** -/
theorem Built.wellFormed (h : p.Built) : p.WellFormed := by
  induction h with
  | of h =>
    obtain ⟨⟨⟩, hcircuit, h⟩ := Outcome.bind_eq_ok.mp h
    obtain ⟨hconsistent, h⟩ := Outcome.ite_ok_eq_ok.mp h
    obtain rfl := Outcome.pure_eq_ok.mp h
    have hcircuit := requireCircuit_eq_ok_iff.mp (Outcome.mapError_eq_ok.mp hcircuit)
    exact ⟨hcircuit, eq_of_beq hconsistent, fun _ hk => nomatch hk⟩
  | withAgeKey _ h ih =>
    obtain ⟨⟨⟩, hcircuit, h⟩ := Outcome.bind_eq_ok.mp h
    obtain rfl := Outcome.pure_eq_ok.mp h
    have hcircuit := requireCircuit_eq_ok_iff.mp (Outcome.mapError_eq_ok.mp hcircuit)
    exact ⟨ih.circuit_eq, ih.paramsVersion_eq, fun _ hk => Option.some.inj hk ▸ hcircuit⟩

/-- There is a prover for every login key and every bundle of a verifier. -/
theorem of_eq_ok {policy : Policy} {vkId : Fingerprint} (hkey : S.provingCircuit key = .auth) :
    LoginProver.of key (.of policy vkId) = .ok ⟨key, .of policy vkId, none⟩ := by
  have hconsistent : (PolicyBundle.of policy vkId).isConsistent = true := beq_self_eq_true _
  rw [LoginProver.of, requireCircuit, hkey, if_pos rfl, hconsistent]
  rfl

/-- The public inputs that a prover makes a login for. -/
def inputs (p : LoginProver S) (derived : FieldElement) (salt : Salt) (challenge : UInt64) :
    PublicInputs :=
  .auth (.of (Commitment.ofDerived derived salt) salt challenge p.bundle.config)

/-- **What a login has gone through** when there is an envelope, and what the envelope says beside
its proof. -/
theorem exists_of_proveLogin {e : Envelope}
    (h : p.proveLogin secret birthYear challenge text = .ok e) :
    (secret ≠ [] ∧ challenge ≠ 0) ∧ ∃ salt derived, Salt.ofHex text = .ok salt
      ∧ Commitment.deriveWith secret salt p.bundle.config = .ok derived
      ∧ e.proofVersion = Circuit.auth.proofVersion ∧ e.vkId = p.bundle.vkId
      ∧ e.paramsVersion = p.bundle.paramsVersion
      ∧ e.commitment = some (Commitment.ofDerived derived salt).toDecimal := by
  rw [proveLogin, Outcome.ite_error_eq_ok, Outcome.ite_error_eq_ok] at h
  obtain ⟨hsecret, hchallenge, h⟩ := h
  obtain ⟨salt, htext, h⟩ := Outcome.bind_eq_ok.mp h
  obtain ⟨derived, hderived, h⟩ := Outcome.bind_eq_ok.mp h
  obtain ⟨proof, -, h⟩ := Outcome.bind_eq_ok.mp h
  obtain rfl := Outcome.pure_eq_ok.mp h
  exact ⟨⟨hsecret, hchallenge⟩, salt, derived, Outcome.mapError_eq_ok.mp htext,
    Outcome.mapError_eq_ok.mp hderived, rfl, rfl, rfl, rfl⟩

/-- **The commitment of an envelope** is the one of its secret under the policy of the bundle. -/
theorem exists_commit_of_proveLogin {e : Envelope}
    (h : p.proveLogin secret birthYear challenge text = .ok e) :
    ∃ value, Commitment.commit secret text p.bundle.config = .ok value
      ∧ e.commitment = some value.toDecimal := by
  obtain ⟨-, salt, derived, htext, hderived, -, -, -, hcommitment⟩ := exists_of_proveLogin h
  exact ⟨_, Commitment.commit_eq_ok htext hderived, hcommitment⟩

/-- A login fails where its commitment does. -/
theorem proveLogin_of_commit {err : CommitmentError} (hsecret : secret ≠ [])
    (hchallenge : challenge ≠ 0) (h : Commitment.commit secret text p.bundle.config = .error err) :
    p.proveLogin secret birthYear challenge text = .error (.ofCommitment err) := by
  rw [proveLogin, if_neg hsecret, if_neg hchallenge]
  cases htext : Salt.ofHex text with
  | error e =>
    rw [Commitment.commit, htext] at h
    obtain rfl := Except.error.inj h
    rfl
  | ok salt =>
    rw [Commitment.commit_of_ofHex htext, Commitment.commitWith] at h
    cases hderived : Commitment.deriveWith secret salt p.bundle.config with
    | error e =>
      rw [hderived] at h
      obtain rfl := Except.error.inj h
      change (Commitment.deriveWith secret salt p.bundle.config).mapError LoginError.ofCommitment
        >>= _ = _
      rw [hderived]
      rfl
    | ok derived =>
      rw [hderived] at h
      cases h

/-! ## Envelopes of digests -/

section Transparent

variable {p : LoginProver}

/-- **The envelope of a login** with a derived secret. -/
def envelope (p : LoginProver) (derived : FieldElement) (salt : Salt) (challenge : UInt64) :
    Envelope where
  proof := Transparent.proofOf p.authKey.material (p.inputs derived salt challenge)
  proofVersion := Circuit.auth.proofVersion
  vkId := p.bundle.vkId
  paramsVersion := p.bundle.paramsVersion
  commitment := some (Commitment.ofDerived derived salt).toDecimal
  salt := some salt.toHex

/-- **A prover that has derived the secret makes the envelope, or says that the age is wrong.** -/
theorem proveLogin_eq (hkey : p.authKey.circuit = .auth) (hsecret : secret ≠ [])
    (hchallenge : challenge ≠ 0) (htext : Salt.ofHex text = .ok salt)
    (hderived : Commitment.deriveWith secret salt p.bundle.config = .ok derived) :
    p.proveLogin secret birthYear challenge text =
      if Circuit.isOfAge p.bundle.config.targetYear p.bundle.config.limitAge birthYear then
        .ok (p.envelope derived salt challenge)
      else .error (.proving (.witness Unsatisfied.age.message)) := by
  have hproof : Transparent.prove p.authKey (p.inputs derived salt challenge)
      (.auth derived birthYear) =
        if Circuit.isOfAge p.bundle.config.targetYear p.bundle.config.limitAge birthYear then
          .ok (Transparent.proofOf p.authKey.material (p.inputs derived salt challenge))
        else .error (.witness Unsatisfied.age.message) := by
    have hcircuit : (p.inputs derived salt challenge).circuit = p.authKey.circuit := hkey.symm
    rw [Transparent.prove, if_neg (not_not.mpr hcircuit), inputs, Circuit.check_auth_eq]
    cases Circuit.isOfAge p.bundle.config.targetYear p.bundle.config.limitAge birthYear <;> rfl
  rw [proveLogin, if_neg hsecret, if_neg hchallenge, htext]
  change (Commitment.deriveWith secret salt p.bundle.config).mapError LoginError.ofCommitment
    >>= _ = _
  rw [hderived]
  change (Transparent.prove p.authKey (p.inputs derived salt challenge) _).mapError
    LoginError.proving >>= _ = _
  rw [hproof]
  split <;> rfl

/-- **The envelope of a login** that its prover makes, for the commitment under the salt that was
spelled. -/
theorem proveLogin_eq_ok (hkey : p.authKey.circuit = .auth) (hsecret : secret ≠ [])
    (hchallenge : challenge ≠ 0) (htext : Salt.ofHex text = .ok salt)
    (hderived : Commitment.deriveWith secret salt p.bundle.config = .ok derived)
    (hage : Circuit.isOfAge p.bundle.config.targetYear p.bundle.config.limitAge birthYear = true) :
    p.proveLogin secret birthYear challenge text = .ok {
      proof := Transparent.proofOf p.authKey.material
        (.auth (.of (Commitment.ofDerived derived salt) salt challenge p.bundle.config))
      proofVersion := Circuit.auth.proofVersion
      vkId := p.bundle.vkId
      paramsVersion := p.bundle.paramsVersion
      commitment := some (Commitment.ofDerived derived salt).toDecimal
      salt := some salt.toHex } :=
  (proveLogin_eq hkey hsecret hchallenge htext hderived).trans (if_pos hage)

end Transparent

end LoginProver

end ProofLogin
