import ProofLogin.Proofs.Login.Prover
import ProofLogin.Proofs.Login.Verifier
import ProofLogin.Proofs.Policy

/-!
# Proofs/Login/Drift — a login under another policy is refused before its token is looked at

    prover of p ──▸ envelope with the version of p ──▸ enforce against the version of q

What a prover makes carries the version of its bundle (`LoginProver.proveLogin_fields`), which is
the one of its policy where the bundle is consistent. The verifier compares it with its own as soon
as the key is resolved, so that neither the token nor the store is touched
(`LoginVerifier.verifyLogin_of_other_policy`).
-/

namespace ProofLogin

/-- What an envelope of a login says beside its proof. -/
theorem LoginProver.proveLogin_fields {S : ProofSystem} {p : LoginProver S} {secret : Bytes}
    {birthYear : Int32} {challenge : UInt64} {salt : String} {e : Envelope}
    (h : p.proveLogin secret birthYear challenge salt = .ok e) :
    e.proofVersion = Circuit.auth.proofVersion ∧ e.vkId = p.bundle.vkId
      ∧ e.paramsVersion = p.bundle.paramsVersion := by
  obtain ⟨-, -, -, -, -, hversion, hname, hparams, -⟩ := exists_of_proveLogin h
  exact ⟨hversion, hname, hparams⟩

/-- The version of another policy is told, once the key is the right one. -/
theorem PolicyBundle.enforce_eq_policyMismatch {policy : Policy} {vkId : Fingerprint}
    {presented : String} (hne : presented ≠ "") (hother : presented ≠ policy.version) :
    (PolicyBundle.of policy vkId).enforce vkId.toHex presented
      = .error (.policyMismatch policy.version presented) := by
  rw [enforce, if_neg fun h => h.2 rfl]
  exact if_pos ⟨hne, hother⟩

namespace LoginVerifier

variable {S : ProofSystem} {v : LoginVerifier S} {registry : KeyRegistry} {token userId : String}
  {e : Envelope} {now : Int64} {K : Fingerprint}

/-- **A login under another policy is refused for that**, if it names a key that the verifier holds
and the registry trusts; the store stays as it was. -/
theorem verifyLogin_of_other_policy (htoken : token ≠ "") (huser : userId ≠ "")
    (hcircuit : e.circuit? = some .auth) (hname : e.vkId = K.toHex) (hholds : v.holds K = true)
    (hvalid : registry.isValidAt K (.ofUnix now) = true) (hne : e.paramsVersion ≠ "")
    (hother : e.paramsVersion ≠ v.policy.version) (store : ReplayStore) (stored : Commitment) :
    v.verifyLogin registry store token e userId stored now
      = (.error (.policyMismatch v.policy.version e.paramsVersion), store) := by
  have hresolve : v.resolveKey registry e.vkId (.ofUnix now) = .ok K :=
    (resolveKey_eq_ok_iff hvalid (.inr hname)).mpr ⟨hholds, .inl hname⟩
  have hrefused : v.authorize registry token e userId stored now
      = .error (.policyMismatch v.policy.version e.paramsVersion) := by
    rw [authorize, if_neg htoken, if_neg huser, if_neg (not_not.mpr hcircuit)]
    change (v.resolveKey registry e.vkId (.ofUnix now) >>= fun _ => _) = _
    rw [hresolve]
    change ((PolicyBundle.of v.policy K).enforce e.vkId e.paramsVersion >>= fun _ => _) = _
    rw [hname, PolicyBundle.enforce_eq_policyMismatch hne hother]
    rfl
  exact verifyLogin_of_error hrefused

/-- **Policies that differ are told apart before anything is consumed.** The text of a policy says
its four numbers, so that policies of one version are the same or their texts are a collision of the
digest. Where the versions differ, what a prover of the one policy makes is refused by every
verifier of the other one, over whatever proof systems, if it names a key that is held and trusted:
the two versions are told, and the store is left as it was. -/
theorem policy_drift_detected (p q : Policy) :
    (p.versionText = q.versionText ↔ p = q)
      ∧ (p.version = q.version ↔ p = q ∨ p.versionText ≠ q.versionText
        ∧ Sha256.hash (Utf8.encode p.versionText) = Sha256.hash (Utf8.encode q.versionText))
      ∧ ∀ (S S' : ProofSystem) (prover : LoginProver S) (secret : Bytes) (birthYear : Int32)
        (challenge : UInt64) (salt : String) (e : Envelope) (v : LoginVerifier S')
        (registry : KeyRegistry) (store : ReplayStore) (token userId : String) (stored : Commitment)
        (now : Int64) (K : Fingerprint), p.version ≠ q.version → prover.bundle.config = p →
        prover.bundle.isConsistent = true →
        prover.proveLogin secret birthYear challenge salt = .ok e → v.policy = q →
        e.vkId = K.toHex → v.holds K = true → registry.isValidAt K (.ofUnix now) = true →
        token ≠ "" → userId ≠ "" →
        v.verifyLogin registry store token e userId stored now
          = (.error (.policyMismatch q.version p.version), store) := by
  refine ⟨Policy.versionText_injective.eq_iff, Policy.version_eq_iff, ?_⟩
  rintro S S' prover secret birthYear challenge salt e v registry store token userId stored now K
    hpq rfl hconsistent he rfl hname hholds hvalid htoken huser
  obtain ⟨hversion, -, hparams⟩ := LoginProver.proveLogin_fields he
  have hpresented : e.paramsVersion = prover.bundle.config.version :=
    hparams.trans (eq_of_beq hconsistent)
  have hcircuit : e.circuit? = some .auth := circuit?_eq_auth_iff.mpr hversion
  rw [← hpresented] at hpq ⊢
  have hne : e.paramsVersion ≠ "" := by
    rw [hpresented]
    exact Policy.version_ne_empty _
  exact verifyLogin_of_other_policy htoken huser hcircuit hname hholds hvalid hne hpq store stored

/-- The policy of a year later. -/
def samplePolicy : Policy := { Policy.default with targetYear := 2026 }

/-- A client that still has the right key, but that policy. -/
def sampleProver : LoginProver :=
  ⟨⟨sampleKey.material⟩, .of samplePolicy sampleKey.fingerprint, none⟩

/-- What the client makes is refused for its policy, whatever is stored for the user, and nothing is
used up. -/
theorem policy_drift_detected_sample :
    ∃ e, sampleProver.proveLogin [1] 1990 7 "000102030405ABCD" = .ok e
      ∧ ∀ stored, sample.verifyLogin sampleRegistry (.memory [("j0", 9)]) "token" e "alice" stored 0
        = (.error (.policyMismatch Policy.default.version samplePolicy.version),
          .memory [("j0", 9)]) := by
  have hpolicy : samplePolicy.version ≠ Policy.default.version := by decide +kernel
  let salt : Salt := ⟨[0, 1, 2, 3, 4, 5, 0xAB, 0xCD], by decide⟩
  obtain ⟨derived, hderived⟩ :
      ∃ derived, Commitment.deriveWith [1] salt samplePolicy = .ok derived :=
    Commitment.exists_deriveWith rfl (by decide) (by decide)
  have hprove : sampleProver.proveLogin [1] 1990 7 "000102030405ABCD" = .ok _ :=
    LoginProver.proveLogin_eq_ok rfl (by decide) (by decide) rfl hderived rfl
  have hheld : sample.holds sampleKey.fingerprint = true :=
    holds_iff.mpr ⟨sampleKey, by simp [authKey?, sample]⟩
  refine ⟨_, hprove, fun stored => ?_⟩
  exact (policy_drift_detected samplePolicy .default).2.2 _ _ sampleProver [1] 1990 7 _ _ sample
    sampleRegistry _ "token" "alice" stored 0 sampleKey.fingerprint hpolicy rfl
    (beq_self_eq_true _) hprove rfl rfl hheld (admits_sample stored).valid (by decide) (by decide)

end LoginVerifier

end ProofLogin
