import Mathlib.Logic.Basic
import ProofLogin.Commitment.Basic
import ProofLogin.Proofs.Commitment.Salt

/-!
# Proofs/Commitment/Derivation — a secret can be derived at every cost that is valid

    cost   ──validate──▸  ·  ──▸ digest ──▸ derived ──ofDerived──▸ commitment
    secret, salt ────────────────┘

The memory-hard digest has limits of its own for its cost, and for the lengths of the secret and the
salt.  A valid cost is within them (`KdfCost.validate_toArgon2id`), a salt is never too short, and
texts that are too long are left to hypotheses; so a commitment fails exactly where its cost does,
and is otherwise a function of the secret, the salt and the cost (`Commitment.commitWith_eq`).
-/

namespace ProofLogin

/-! ## Costs -/

namespace KdfCost

variable {cost : KdfCost}

/-- **The costs that are valid**: one pass and 32 KiB at least. -/
theorem validate_eq_ok_iff :
    cost.validate = .ok () ↔ cost.iterations ≠ 0 ∧ 32 ≤ cost.memoryKiB.toNat := by
  have hleast : leastMemoryKiB.toNat = 32 := rfl
  rw [validate, Outcome.ite_error_eq_ok, Outcome.ite_error_eq_ok, and_iff_left rfl,
    UInt32.not_lt, UInt32.le_iff_toNat_le, hleast]

theorem exists_validate_eq_error_iff :
    (∃ e, cost.validate = .error e) ↔ cost.iterations = 0 ∨ cost.memoryKiB.toNat < 32 := by
  have hnot : (∃ e, cost.validate = .error e) ↔ ¬cost.validate = .ok () := by
    cases cost.validate <;> simp
  rw [hnot, validate_eq_ok_iff, not_and_or, not_not, Nat.not_le]

/-- **A valid cost is one that the digest can be run at**, with its lanes and its width. -/
theorem validate_toArgon2id (h : cost.validate = .ok ()) : cost.toArgon2id.validate = .ok () := by
  obtain ⟨hpasses, hmemory⟩ := validate_eq_ok_iff.mp h
  have hpos : cost.iterations.toNat ≠ 0 := fun h0 => hpasses (UInt32.toNat_inj.mp h0)
  have hlane : Argon2id.leastLane * Argon2id.lanes = 32 := rfl
  have hmemory' : ¬cost.toArgon2id.memory < Argon2id.leastLane * Argon2id.lanes :=
    hlane ▸ Nat.not_lt.mpr hmemory
  have hpasses' : ¬cost.toArgon2id.passes < 1 := Nat.not_lt.mpr (Nat.one_le_iff_ne_zero.mpr hpos)
  rw [Argon2id.Cost.validate, if_neg hmemory', if_neg hpasses', if_neg (by decide),
    if_neg (by decide), if_neg (by decide), if_neg (by decide)]

end KdfCost

/-! ## Digests -/

theorem Argon2id.hash_eq_ok {cost : Cost} {password salt : Bytes} (hcost : cost.validate = .ok ())
    (hpassword : password.length < lengthLimit) (hleast : leastSalt ≤ salt.length)
    (hsalt : salt.length < lengthLimit) :
    hash cost password salt
      = .ok ⟨digest cost password salt, length_digest cost password salt⟩ := by
  rw [hash, hcost, Outcome.ok_bind, if_neg (Nat.not_le.mpr hpassword),
    if_neg (Nat.not_lt.mpr hleast), if_neg (Nat.not_le.mpr hsalt)]

namespace Commitment

variable {secret : Bytes} {text : String} {salt : Salt} {policy : Policy} {derived : FieldElement}
  {value : FieldElement}

/-- The derived secret at a cost that is valid. -/
def derivedAt (cost : KdfCost) (secret : Bytes) (salt : Salt) : FieldElement :=
  .ofBytes (Argon2id.digest cost.toArgon2id secret salt.octets)

/-- **The commitment at a cost that is valid**: a function of the cost, the secret and the octets of
the salt. -/
def valueAt (cost : KdfCost) (secret : Bytes) (salt : Salt) : FieldElement :=
  ofDerived (derivedAt cost secret salt) salt

/-- **A derivation fails exactly where its cost does.** -/
theorem deriveWith_eq (hsecret : secret.length < Argon2id.lengthLimit)
    (hsalt : salt.octets.length < Argon2id.lengthLimit) :
    deriveWith secret salt policy = (policy.kdf.validate.mapError CommitmentError.invalidPolicy).map
      fun () => derivedAt policy.kdf secret salt := by
  rw [deriveWith, kdf]
  cases hcost : policy.kdf.validate with
  | error e => rfl
  | ok =>
    simp only
    rw [Argon2id.hash_eq_ok (KdfCost.validate_toArgon2id hcost) hsecret salt.le_length hsalt]
    rfl

/-- **A commitment fails exactly where its cost does.** -/
theorem commitWith_eq (hsecret : secret.length < Argon2id.lengthLimit)
    (hsalt : salt.octets.length < Argon2id.lengthLimit) :
    commitWith secret salt policy = (policy.kdf.validate.mapError CommitmentError.invalidPolicy).map
      fun () => valueAt policy.kdf secret salt := by
  rw [commitWith, deriveWith_eq hsecret hsalt]
  cases policy.kdf.validate <;> rfl

/-! ## Salts as texts -/

theorem derive_of_ofHex (htext : Salt.ofHex text = .ok salt) :
    derive secret text policy = deriveWith secret salt policy := by
  rw [derive, htext, Outcome.ok_bind]

theorem commit_of_ofHex (htext : Salt.ofHex text = .ok salt) :
    commit secret text policy = commitWith secret salt policy := by
  rw [commit, htext, Outcome.ok_bind]

/-- **The commitments that there are**: of a text that spells a salt, at a cost that is valid. -/
theorem commit_eq_ok_iff (hsecret : secret.length < Argon2id.lengthLimit)
    (hsalt : ∀ salt, Salt.ofHex text = .ok salt → salt.octets.length < Argon2id.lengthLimit) :
    commit secret text policy = .ok value ↔ ∃ salt, Salt.ofHex text = .ok salt
      ∧ policy.kdf.validate = .ok () ∧ value = valueAt policy.kdf secret salt := by
  rw [commit, Outcome.bind_eq_ok]
  refine exists_congr fun salt => and_congr_right fun htext => ?_
  rw [commitWith_eq hsecret (hsalt salt htext), Outcome.map_eq_ok]
  constructor
  · rintro ⟨⟨⟩, hcost, rfl⟩
    exact ⟨Outcome.mapError_eq_ok.mp hcost, rfl⟩
  · rintro ⟨hcost, rfl⟩
    exact ⟨(), Outcome.mapError_eq_ok.mpr hcost, rfl⟩

/-- **What can become of a commitment**: the text spells no salt, or it does and the cost is not
valid, or there is a commitment. -/
theorem commit_cases (policy : Policy) (hsecret : secret.length < Argon2id.lengthLimit)
    (hsalt : ∀ salt, Salt.ofHex text = .ok salt → salt.octets.length < Argon2id.lengthLimit) :
    (¬Salt.IsSpelling text ∧ ∃ reason, commit secret text policy = .error (.saltDecode reason))
      ∨ (Salt.IsSpelling text ∧ ∃ e, policy.kdf.validate = .error e
        ∧ commit secret text policy = .error (.invalidPolicy e))
      ∨ Salt.IsSpelling text ∧ policy.kdf.validate = .ok ()
        ∧ ∃ value, commit secret text policy = .ok value := by
  cases htext : Salt.ofHex text with
  | error err =>
    have hnot : ¬Salt.IsSpelling text := fun h => by
      obtain ⟨salt, hsalt⟩ := Salt.exists_ofHex_iff.mpr h
      cases htext.symm.trans hsalt
    obtain ⟨reason, rfl⟩ := Salt.exists_saltDecode_of_ofHex htext
    refine .inl ⟨hnot, reason, ?_⟩
    rw [commit, htext, Outcome.error_bind]
  | ok salt =>
    have hspelling : Salt.IsSpelling text := Salt.exists_ofHex_iff.mp ⟨salt, htext⟩
    rw [commit_of_ofHex htext, commitWith_eq hsecret (hsalt salt htext)]
    cases policy.kdf.validate with
    | error e => exact .inr (.inl ⟨hspelling, e, rfl, rfl⟩)
    | ok => exact .inr (.inr ⟨hspelling, rfl, valueAt policy.kdf secret salt, rfl⟩)

/-- **A commitment fails exactly where it says**: for the salt or, if that is one, for the cost, and
never for the digest. -/
theorem commit_outcome (policy : Policy) (hsecret : secret.length < Argon2id.lengthLimit)
    (hsalt : ∀ salt, Salt.ofHex text = .ok salt → salt.octets.length < Argon2id.lengthLimit) :
    ((∃ reason, commit secret text policy = .error (.saltDecode reason)) ↔ ¬Salt.IsSpelling text)
      ∧ ((∃ e, commit secret text policy = .error (.invalidPolicy e)) ↔ Salt.IsSpelling text
        ∧ (policy.kdf.iterations = 0 ∨ policy.kdf.memoryKiB.toNat < 32))
      ∧ ((∃ value, commit secret text policy = .ok value) ↔ Salt.IsSpelling text
        ∧ policy.kdf.iterations ≠ 0 ∧ 32 ≤ policy.kdf.memoryKiB.toNat)
      ∧ ∀ reason, commit secret text policy ≠ .error (.kdf reason) := by
  rw [← KdfCost.exists_validate_eq_error_iff, ← KdfCost.validate_eq_ok_iff]
  obtain ⟨hnot, reason, h⟩ | ⟨hspelling, e, hcost, h⟩ | ⟨hspelling, hcost, value, h⟩ :=
    commit_cases policy hsecret hsalt
  · simp [h, hnot]
  · simp [h, hspelling, hcost]
  · simp [h, hspelling, hcost]

end Commitment

end ProofLogin
