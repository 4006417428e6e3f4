import ProofLogin.Commitment.Migration
import ProofLogin.Proofs.Commitment.Derivation
import ProofLogin.Proofs.Commitment.Field

/-!
# Proofs/Commitment/Verified — a verified migration is one from the commitment that was expected

    p₀ ──▸ p₁ ──▸ p₂
     └───────────▴

A migration makes both commitments as they would be made by themselves (`migrate_eq`), and a
verified one is the same migration with the text of its old commitment
(`verifyAndMigrate_eq_ok_iff`).  So the new commitment of one migration is the old one of the next,
and where two follow each other there is one that goes all the way (`verifyAndMigrate_composes`).
-/

namespace ProofLogin

variable {secret : Bytes} {text expected : String} {old new : Policy} {o : MigrationOutcome}

/-- **A migration makes two commitments**, each as it would be made by itself. -/
theorem migrate_eq : migrate secret text old new = do
    let oldCommitment ← Commitment.commit secret text old
    let newCommitment ← Commitment.commit secret text new
    return ⟨oldCommitment, newCommitment⟩ := by
  rw [migrate]
  cases htext : Salt.ofHex text with
  | error e =>
    rw [Commitment.commit, htext]
    rfl
  | ok salt =>
    rw [Commitment.commit_of_ofHex htext, Commitment.commit_of_ofHex htext, Outcome.ok_bind]

theorem migrate_eq_ok_iff : migrate secret text old new = .ok o ↔
    Commitment.commit secret text old = .ok o.oldCommitment
      ∧ Commitment.commit secret text new = .ok o.newCommitment := by
  rw [migrate_eq, Outcome.bind_eq_ok]
  constructor
  · rintro ⟨oldCommitment, hold, h⟩
    obtain ⟨newCommitment, hnew, h⟩ := Outcome.bind_eq_ok.mp h
    obtain rfl := Outcome.pure_eq_ok.mp h
    exact ⟨hold, hnew⟩
  · rintro ⟨hold, hnew⟩
    exact ⟨_, hold, Outcome.bind_eq_ok.mpr ⟨_, hnew, rfl⟩⟩

/-- **A verified migration is a migration from the commitment whose text was expected.** -/
theorem verifyAndMigrate_eq_ok_iff : verifyAndMigrate secret text expected old new = .ok o ↔
    migrate secret text old new = .ok o ∧ expected = o.oldCommitment.toDecimal := by
  rw [verifyAndMigrate, migrate]
  constructor
  · intro h
    obtain ⟨value, hexpected, h⟩ := Outcome.bind_eq_ok.mp h
    obtain ⟨salt, htext, h⟩ := Outcome.bind_eq_ok.mp h
    obtain ⟨oldCommitment, hold, h⟩ := Outcome.bind_eq_ok.mp h
    obtain ⟨heq, h⟩ := Outcome.ite_ok_eq_ok.mp h
    obtain ⟨newCommitment, hnew, h⟩ := Outcome.bind_eq_ok.mp h
    obtain rfl := Outcome.pure_eq_ok.mp h
    obtain rfl := FieldElement.toBytes_inj.mp heq
    refine ⟨?_, FieldElement.ofDecimal_eq_ok_iff.mp hexpected⟩
    rw [htext, Outcome.ok_bind, hold, Outcome.ok_bind, hnew, Outcome.ok_bind]
    rfl
  · rintro ⟨h, rfl⟩
    obtain ⟨salt, htext, h⟩ := Outcome.bind_eq_ok.mp h
    obtain ⟨oldCommitment, hold, h⟩ := Outcome.bind_eq_ok.mp h
    obtain ⟨newCommitment, hnew, h⟩ := Outcome.bind_eq_ok.mp h
    obtain rfl := Outcome.pure_eq_ok.mp h
    rw [FieldElement.ofDecimal_toDecimal, Outcome.ok_bind, htext, Outcome.ok_bind, hold,
      Outcome.ok_bind, if_pos rfl, hnew, Outcome.ok_bind]
    rfl

/-- **Two migrations that follow each other are one.** -/
theorem migrate_trans {further : Policy} {o' : MigrationOutcome}
    (h : migrate secret text old new = .ok o) (h' : migrate secret text new further = .ok o') :
    migrate secret text old further = .ok ⟨o.oldCommitment, o'.newCommitment⟩ :=
  migrate_eq_ok_iff.mpr ⟨(migrate_eq_ok_iff.mp h).1, (migrate_eq_ok_iff.mp h').2⟩

/-- **A verified migration does what it says, and so does the next one.**  For a secret and a salt
that are not too long, there is one exactly if the text spells a salt, both costs are valid, and
what is expected is, character for character, the text of the commitment under the old policy.  It
is the migration without verification, and ends in the commitment under the new policy.  From there
the verified migration to every further policy with a valid cost succeeds, and ends where the
migrations that go there directly end, with and without verification. -/
theorem verifyAndMigrate_composes (secret : Bytes) (text expected : String) (p₀ p₁ : Policy)
    (hsecret : secret.length < 0x100000000)
    (hsalt : ∀ salt, Salt.ofHex text = .ok salt → salt.octets.length < 0x100000000) :
    ((∃ o, verifyAndMigrate secret text expected p₀ p₁ = .ok o) ↔
        (∃ salt, Salt.ofHex text = .ok salt)
        ∧ p₀.kdf.validate = .ok () ∧ p₁.kdf.validate = .ok ()
        ∧ ∃ value, Commitment.commit secret text p₀ = .ok value ∧ expected = value.toDecimal)
      ∧ ∀ o, verifyAndMigrate secret text expected p₀ p₁ = .ok o →
        migrate secret text p₀ p₁ = .ok o
        ∧ Commitment.commit secret text p₁ = .ok o.newCommitment
        ∧ ∀ p₂ : Policy, p₂.kdf.validate = .ok () → ∃ o' direct,
          verifyAndMigrate secret text o.newCommitment.toDecimal p₁ p₂ = .ok o'
          ∧ migrate secret text p₀ p₂ = .ok direct
          ∧ verifyAndMigrate secret text expected p₀ p₂ = .ok direct
          ∧ o'.newCommitment = direct.newCommitment := by
  have hcommit (p : Policy) (value : FieldElement) :
      Commitment.commit secret text p = .ok value ↔ ∃ salt, Salt.ofHex text = .ok salt
        ∧ p.kdf.validate = .ok () ∧ value = Commitment.valueAt p.kdf secret salt :=
    Commitment.commit_eq_ok_iff hsecret hsalt
  refine ⟨⟨?_, ?_⟩, fun o h => ?_⟩
  · rintro ⟨o, h⟩
    obtain ⟨hmigrate, hexpected⟩ := verifyAndMigrate_eq_ok_iff.mp h
    obtain ⟨hold, hnew⟩ := migrate_eq_ok_iff.mp hmigrate
    obtain ⟨salt, htext, hcost₀, -⟩ := (hcommit p₀ _).mp hold
    obtain ⟨-, -, hcost₁, -⟩ := (hcommit p₁ _).mp hnew
    exact ⟨⟨salt, htext⟩, hcost₀, hcost₁, o.oldCommitment, hold, hexpected⟩
  · rintro ⟨⟨salt, htext⟩, -, hcost₁, value, hold, hexpected⟩
    have hnew := (hcommit p₁ _).mpr ⟨salt, htext, hcost₁, rfl⟩
    have hmigrate := migrate_eq_ok_iff (o := ⟨value, _⟩).mpr ⟨hold, hnew⟩
    exact ⟨_, verifyAndMigrate_eq_ok_iff.mpr ⟨hmigrate, hexpected⟩⟩
  · obtain ⟨hmigrate, hexpected⟩ := verifyAndMigrate_eq_ok_iff.mp h
    obtain ⟨-, hnew⟩ := migrate_eq_ok_iff.mp hmigrate
    refine ⟨hmigrate, hnew, fun p₂ hcost₂ => ?_⟩
    obtain ⟨salt, hread, -, -⟩ := (hcommit p₁ _).mp hnew
    have hlast := (hcommit p₂ _).mpr ⟨salt, hread, hcost₂, rfl⟩
    have hnext := migrate_eq_ok_iff (o := ⟨o.newCommitment, _⟩).mpr ⟨hnew, hlast⟩
    have hdirect := migrate_trans hmigrate hnext
    exact ⟨_, _, verifyAndMigrate_eq_ok_iff.mpr ⟨hnext, rfl⟩, hdirect,
      verifyAndMigrate_eq_ok_iff.mpr ⟨hdirect, hexpected⟩, rfl⟩

/-- The default policy at another cost. -/
def Policy.sampleAt (cost : KdfCost) : Policy := { Policy.default with kdf := cost }

/-- Two verified migrations of a secret, each from what it was committed to before, end where one
does.  With a zero before its text the commitment is not the one that is expected. -/
theorem verifyAndMigrate_composes_sample :
    ∃ value o o', Commitment.commit [1] " 000102030405ABCD\n" (.sampleAt ⟨32, 1⟩) = .ok value
      ∧ verifyAndMigrate [1] " 000102030405ABCD\n" value.toDecimal (.sampleAt ⟨32, 1⟩)
          (.sampleAt ⟨32, 2⟩) = .ok o
      ∧ verifyAndMigrate [1] " 000102030405ABCD\n" o.newCommitment.toDecimal (.sampleAt ⟨32, 2⟩)
          (.sampleAt ⟨64, 1⟩) = .ok o'
      ∧ migrate [1] " 000102030405ABCD\n" (.sampleAt ⟨32, 1⟩) (.sampleAt ⟨64, 1⟩)
          = .ok ⟨value, o'.newCommitment⟩
      ∧ ∀ o, verifyAndMigrate [1] " 000102030405ABCD\n" ("0" ++ value.toDecimal)
          (.sampleAt ⟨32, 1⟩) (.sampleAt ⟨32, 2⟩) ≠ .ok o := by
  let salt : Salt := ⟨[0, 1, 2, 3, 4, 5, 0xAB, 0xCD], by decide⟩
  have htext : Salt.ofHex " 000102030405ABCD\n" = .ok salt := rfl
  have hsalt (s : Salt) (h : Salt.ofHex " 000102030405ABCD\n" = .ok s) :
      s.octets.length < 0x100000000 := s.length_octets_lt h (by decide)
  obtain ⟨value, hcommit⟩ : ∃ value,
      Commitment.commit [1] " 000102030405ABCD\n" (.sampleAt ⟨32, 1⟩) = .ok value :=
    ⟨_, (Commitment.commit_eq_ok_iff (by decide) hsalt).mpr ⟨salt, htext, rfl, rfl⟩⟩
  have h (expected : String) := verifyAndMigrate_composes [1] " 000102030405ABCD\n" expected
    (.sampleAt ⟨32, 1⟩) (.sampleAt ⟨32, 2⟩) (by decide) hsalt
  obtain ⟨o, ho⟩ := (h value.toDecimal).1.mpr ⟨⟨salt, htext⟩, rfl, rfl, value, hcommit, rfl⟩
  obtain ⟨-, -, hfurther⟩ := (h value.toDecimal).2 o ho
  obtain ⟨o', direct, hnext, hdirect, hverified, hsame⟩ := hfurther (.sampleAt ⟨64, 1⟩) rfl
  refine ⟨value, o, o', hcommit, ho, hnext, ?_, fun o h0 => ?_⟩
  · obtain ⟨hold, -⟩ := migrate_eq_ok_iff.mp hdirect
    obtain rfl := Except.ok.inj (hcommit.symm.trans hold)
    rw [hdirect, hsame]
  · obtain ⟨-, -, -, value', hcommit', htext'⟩ := (h _).1.mp ⟨o, h0⟩
    obtain rfl := Except.ok.inj (hcommit.symm.trans hcommit')
    have hlength := congrArg String.length htext'
    rw [String.length_append] at hlength
    simp at hlength

end ProofLogin
