import ProofLogin.Proofs.Login.Prover
import ProofLogin.Proofs.Login.Verifier

/-!
# Proofs/Login/Provability — a login can be proved exactly when its statement is true

    secret, challenge, salt, cost ──▸ derived ──▸ commitment, binding ──check──▸ age ──▸ envelope

A prover that has what a login needs (`LoginProver.Ready`) makes the commitment and the binding by
the rules that the circuit makes them by, so that neither constraint can fail; what is left of the
statement is the age (`LoginProver.exists_proveLogin_eq`).  Ages are compared over the integers, and
64 bits are enough for that (`Circuit.isOfAge_iff_int64`): there is no year of birth for which the
comparison wraps around.
-/

namespace ProofLogin

/-! ## Ages -/

/-- The difference of two years fits into 64 bits. -/
theorem Circuit.toInt_sub_year (year year' : Int32) :
    (year.toInt64 - year'.toInt64).toInt = year.toInt - year'.toInt := by
  have hlt := year.toInt_lt
  have hlt' := year'.toInt_lt
  have hle := year.le_toInt
  have hle' := year'.le_toInt
  rw [Int64.toInt_sub, Int32.toInt_toInt64, Int32.toInt_toInt64]
  exact Int.bmod_eq_of_le (by omega) (by omega)

/-- **Nothing overflows where ages are compared in 64 bits.** -/
theorem Circuit.isOfAge_iff_int64 {targetYear limitAge birthYear : Int32} :
    isOfAge targetYear limitAge birthYear = true
      ↔ limitAge.toInt64 ≤ targetYear.toInt64 - birthYear.toInt64 := by
  rw [isOfAge_iff, Int64.le_iff_toInt_le, toInt_sub_year, Int32.toInt_toInt64]

namespace LoginProver

variable {p : LoginProver} {secret : Bytes} {text : String} {salt : Salt} {derived : FieldElement}
  {challenge : UInt64} {birthYear : Int32} {e : Envelope}

/-! ## What a login needs -/

/-- **What a login needs beside the age**: a secret, a challenge, a text that spells a salt, and a
cost that a secret can be derived at. -/
structure Ready (p : LoginProver) (secret : Bytes) (challenge : UInt64) (text : String) : Prop where
  secret_ne : secret ≠ []
  challenge_ne : challenge ≠ 0
  spells : Salt.IsSpelling text
  iterations_ne : p.bundle.config.kdf.iterations ≠ 0
  le_memory : 32 ≤ p.bundle.config.kdf.memoryKiB.toNat

/-- **A login that has what it needs depends on the age alone.** -/
theorem exists_proveLogin_eq (hp : p.WellFormed) (h : p.Ready secret challenge text)
    (hsecret : secret.length < Argon2id.lengthLimit)
    (hsalt : ∀ salt, Salt.ofHex text = .ok salt → salt.octets.length < Argon2id.lengthLimit) :
    ∃ salt derived, Salt.ofHex text = .ok salt
      ∧ Commitment.derive secret text p.bundle.config = .ok derived
      ∧ ∀ birthYear, p.proveLogin secret birthYear challenge text =
        if Circuit.isOfAge p.bundle.config.targetYear p.bundle.config.limitAge birthYear then
          .ok (p.envelope derived salt challenge)
        else .error (.proving (.witness Unsatisfied.age.message)) := by
  obtain ⟨salt, htext⟩ := Salt.exists_ofHex_iff.mpr h.spells
  have hcost : p.bundle.config.kdf.validate = .ok () :=
    KdfCost.validate_eq_ok_iff.mpr ⟨h.iterations_ne, h.le_memory⟩
  have hderived : Commitment.deriveWith secret salt p.bundle.config = _ :=
    Commitment.deriveWith_eq hsecret (hsalt salt htext)
  rw [hcost] at hderived
  exact ⟨salt, _, htext, (Commitment.derive_of_ofHex htext).trans hderived, fun birthYear =>
    proveLogin_eq hp.circuit_eq h.secret_ne h.challenge_ne htext hderived⟩

/-- **Nothing less is needed.** -/
theorem ready_of_proveLogin (hsecret : secret.length < Argon2id.lengthLimit)
    (hsalt : ∀ salt, Salt.ofHex text = .ok salt → salt.octets.length < Argon2id.lengthLimit)
    (h : p.proveLogin secret birthYear challenge text = .ok e) :
    p.Ready secret challenge text := by
  obtain ⟨⟨hne, hchallenge⟩, salt, derived, htext, hderived, -⟩ := exists_of_proveLogin h
  rw [Commitment.deriveWith_eq hsecret (hsalt salt htext), Outcome.map_eq_ok] at hderived
  obtain ⟨⟨⟩, hcost, -⟩ := hderived
  obtain ⟨hpasses, hmemory⟩ := KdfCost.validate_eq_ok_iff.mp (Outcome.mapError_eq_ok.mp hcost)
  exact ⟨hne, hchallenge, Salt.exists_ofHex_iff.mp ⟨salt, htext⟩, hpasses, hmemory⟩

/-- **Who has an envelope is of age**, and it is the envelope of the derived secret. -/
theorem eq_envelope_of_proveLogin (hp : p.WellFormed)
    (hsecret : secret.length < Argon2id.lengthLimit)
    (hsalt : ∀ salt, Salt.ofHex text = .ok salt → salt.octets.length < Argon2id.lengthLimit)
    (h : p.proveLogin secret birthYear challenge text = .ok e) :
    Circuit.isOfAge p.bundle.config.targetYear p.bundle.config.limitAge birthYear = true
      ∧ ∃ salt derived, Salt.ofHex text = .ok salt
        ∧ Commitment.derive secret text p.bundle.config = .ok derived
        ∧ e = p.envelope derived salt challenge := by
  obtain ⟨salt, derived, htext, hderived, houtcome⟩ :=
    exists_proveLogin_eq hp (ready_of_proveLogin hsecret hsalt h) hsecret hsalt
  rw [houtcome, Outcome.ite_ok_eq_ok] at h
  obtain ⟨hage, rfl⟩ := h.imp_right Except.ok.inj
  exact ⟨hage, salt, derived, htext, hderived, rfl⟩

/-! ## Truth -/

/-- **A login can be proved exactly when its statement is true.**  For a secret and a salt that are
not too long, a prover makes an envelope if and only if it has what a login needs and the difference
of the years, over the integers, is the age that is asked for at least; 64 bits hold that difference
for all years.  Where the age alone is missing, the error is the one of the proof.  The commitment
and the binding satisfy their constraints whenever the secret can be derived, so that the age is all
that can fail; and the public inputs of every envelope that is made satisfy the circuit. -/
theorem proveLogin_iff_true (hp : p.Built) (secret : Bytes) (text : String) (birthYear : Int32)
    (challenge : UInt64) (hsecret : secret.length < 0x100000000)
    (hsalt : ∀ salt, Salt.ofHex text = .ok salt → salt.octets.length < 0x100000000) :
    let policy := p.bundle.config
    let OfAge := policy.limitAge.toInt ≤ policy.targetYear.toInt - birthYear.toInt
    ((∃ e, p.proveLogin secret birthYear challenge text = .ok e)
        ↔ p.Ready secret challenge text ∧ OfAge)
      ∧ (p.Ready secret challenge text → ¬OfAge → p.proveLogin secret birthYear challenge text
        = .error (.proving (.witness "age constraint not satisfied")))
      ∧ (OfAge ↔ policy.limitAge.toInt64 ≤ policy.targetYear.toInt64 - birthYear.toInt64)
      ∧ (∀ salt derived, Salt.ofHex text = .ok salt →
        Commitment.derive secret text policy = .ok derived →
        Circuit.check (p.inputs derived salt challenge) (.auth derived birthYear) = .ok ()
          ∨ Circuit.check (p.inputs derived salt challenge) (.auth derived birthYear)
            = .error .age)
      ∧ ∀ e, p.proveLogin secret birthYear challenge text = .ok e → ∃ salt derived,
        Salt.ofHex text = .ok salt ∧ Commitment.derive secret text policy = .ok derived
          ∧ e = p.envelope derived salt challenge
          ∧ Circuit.check (p.inputs derived salt challenge) (.auth derived birthYear) = .ok () := by
  intro policy OfAge
  have hage : Circuit.isOfAge policy.targetYear policy.limitAge birthYear = true ↔ OfAge :=
    Circuit.isOfAge_iff
  refine ⟨⟨?_, ?_⟩, ?_, hage.symm.trans Circuit.isOfAge_iff_int64, ?_, ?_⟩
  · rintro ⟨e, he⟩
    obtain ⟨hof, -⟩ := eq_envelope_of_proveLogin hp.wellFormed hsecret hsalt he
    exact ⟨ready_of_proveLogin hsecret hsalt he, hage.mp hof⟩
  · rintro ⟨hready, hof⟩
    obtain ⟨salt, derived, -, -, houtcome⟩ :=
      exists_proveLogin_eq hp.wellFormed hready hsecret hsalt
    exact ⟨_, (houtcome birthYear).trans (if_pos (hage.mpr hof))⟩
  · intro hready hnot
    obtain ⟨salt, derived, -, -, houtcome⟩ :=
      exists_proveLogin_eq hp.wellFormed hready hsecret hsalt
    exact (houtcome birthYear).trans (if_neg fun hof => hnot (hage.mp hof))
  · intro salt derived _ _
    rw [inputs, Circuit.check_auth_eq]
    split
    · exact .inl rfl
    · exact .inr rfl
  · intro e he
    obtain ⟨hof, salt, derived, htext, hderived, rfl⟩ :=
      eq_envelope_of_proveLogin hp.wellFormed hsecret hsalt he
    exact ⟨salt, derived, htext, hderived, rfl, Circuit.check_auth hof⟩

/-- The prover of the key and the policy of a verifier. -/
def sample : LoginProver :=
  ⟨⟨LoginVerifier.sampleKey.material⟩,
    .of LoginVerifier.sample.policy LoginVerifier.sampleKey.fingerprint, none⟩

theorem built_sample : Built sample :=
  .of (of_eq_ok rfl)

/-- Whoever is 20 in 2025 can log in, also where the difference of the years takes 33 bits; whoever
is 19 is told that it is the age. -/
theorem proveLogin_iff_true_sample :
    (∃ e, sample.proveLogin [1] 2005 7 " 000102030405ABCD\n" = .ok e)
      ∧ (∃ e, sample.proveLogin [1] Int32.minValue 7 " 000102030405ABCD\n" = .ok e)
      ∧ sample.proveLogin [1] 2006 7 " 000102030405ABCD\n"
        = .error (.proving (.witness "age constraint not satisfied"))
      ∧ ¬∃ e, sample.proveLogin [1] 2005 7 " 000102030405ABC\n" = .ok e := by
  have hsalt (text : String) (hshort : (Text.trim text).length < 0x100000000) (salt : Salt)
      (h : Salt.ofHex text = .ok salt) : salt.octets.length < 0x100000000 :=
    salt.length_octets_lt h hshort
  have htrue (birthYear : Int32) := proveLogin_iff_true built_sample [1] " 000102030405ABCD\n"
    birthYear 7 (by decide) (hsalt _ (by decide))
  have hready : sample.Ready [1] 7 " 000102030405ABCD\n" :=
    ⟨by decide, by decide, by decide, by decide, by decide⟩
  refine ⟨(htrue 2005).1.mpr ⟨hready, by decide⟩, (htrue Int32.minValue).1.mpr ⟨hready, by decide⟩,
    (htrue 2006).2.1 hready (by decide), fun h => ?_⟩
  obtain ⟨hready', -⟩ := (proveLogin_iff_true built_sample [1] " 000102030405ABC\n" 2005 7
    (by decide) (hsalt _ (by decide))).1.mp h
  exact absurd hready'.spells (by decide)

end LoginProver

end ProofLogin
