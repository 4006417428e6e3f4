import ProofLogin.Proofs.Commitment.Verified
import ProofLogin.Proofs.Login.Drift

/-!
# Proofs/Login/Agreement — a secret has one commitment, whichever way it is made

    commit ──── derive, ofDerived ──── create ──── migrate ──── proveLogin

Registration, migration and login each read a salt and run the digest by themselves.  They do the
same: where there is a commitment it is the same one, and where there is none they all say why, for
the salt or for the cost.
-/

namespace ProofLogin

namespace Commitment

variable {secret : Bytes} {text : String} {salt : Salt}

/-- **What a commitment depends on**: the octets of the salt and the cost. -/
theorem commit_congr {text' : String} {policy policy' : Policy} (htext : Salt.ofHex text = .ok salt)
    (htext' : Salt.ofHex text' = .ok salt) (hcost : policy'.kdf = policy.kdf) :
    commit secret text' policy' = commit secret text policy := by
  rw [commit_of_ofHex htext, commit_of_ofHex htext', commitWith, commitWith, deriveWith, deriveWith,
    hcost]

theorem commit_eq_derive (htext : Salt.ofHex text = .ok salt) (policy : Policy) :
    commit secret text policy
      = (derive secret text policy).map fun derived => ofDerived derived salt := by
  rw [commit_of_ofHex htext, derive_of_ofHex htext, commitWith]

theorem create_eq_commit {draw : Bytes32} (htext : Salt.ofHex text = .ok (Salt.ofDraw draw))
    (policy : Policy) : create secret policy draw
      = (commit secret text policy).map fun value => ⟨value, Salt.ofDraw draw⟩ := by
  rw [create, commit_of_ofHex htext]

/-- **A commitment fails only where it says, and all that make one agree.**  For a secret and a salt
that are not too long, there is an error for the salt exactly if the text spells none; otherwise one
for the cost exactly if it is without passes or below 32 KiB; and otherwise a commitment.  It is a
function of the secret, the octets of the salt and the cost.  It is made of the derived secret, is
what a registration with that salt stores, what a migration from or to the policy tells of it, and
what the envelope of a login under the policy carries; and these fail with it. -/
theorem makers_agree (secret : Bytes) (text : String) (policy : Policy)
    (hsecret : secret.length < 0x100000000)
    (hsalt : ∀ salt, Salt.ofHex text = .ok salt → salt.octets.length < 0x100000000) :
    ((∃ reason, commit secret text policy = .error (.saltDecode reason)) ↔ ¬Salt.IsSpelling text)
      ∧ ((∃ e, commit secret text policy = .error (.invalidPolicy e)) ↔ Salt.IsSpelling text
        ∧ (policy.kdf.iterations = 0 ∨ policy.kdf.memoryKiB.toNat < 32))
      ∧ ((∃ value, commit secret text policy = .ok value) ↔ Salt.IsSpelling text
        ∧ policy.kdf.iterations ≠ 0 ∧ 32 ≤ policy.kdf.memoryKiB.toNat)
      ∧ (∀ reason, commit secret text policy ≠ .error (.kdf reason))
      ∧ (∀ salt, Salt.ofHex text = .ok salt →
        (∀ (text' : String) (policy' : Policy), Salt.ofHex text' = .ok salt →
          policy'.kdf = policy.kdf → commit secret text' policy' = commit secret text policy)
        ∧ commit secret text policy
          = (derive secret text policy).map (fun derived => ofDerived derived salt)
        ∧ ∀ draw, Salt.ofDraw draw = salt → create secret policy draw
          = (commit secret text policy).map (fun value => ⟨value, salt⟩))
      ∧ (∀ old new : Policy, migrate secret text old new = do
          let oldCommitment ← commit secret text old
          let newCommitment ← commit secret text new
          return ⟨oldCommitment, newCommitment⟩)
      ∧ ∀ (S : ProofSystem) (p : LoginProver S) (birthYear : Int32) (challenge : UInt64),
        p.bundle.config = policy →
        (∀ e, p.proveLogin secret birthYear challenge text = .ok e →
          ∃ value, commit secret text policy = .ok value ∧ e.commitment = some value.toDecimal)
        ∧ ∀ err, commit secret text policy = .error err → secret ≠ [] → challenge ≠ 0 →
          p.proveLogin secret birthYear challenge text = .error (.ofCommitment err) := by
  obtain ⟨hspelling, hcost, hcommit, hdigest⟩ := commit_outcome policy hsecret hsalt
  refine ⟨hspelling, hcost, hcommit, hdigest, fun salt htext => ⟨?_, ?_, ?_⟩, ?_, ?_⟩
  · exact fun text' policy' htext' hsame => commit_congr htext htext' hsame
  · exact commit_eq_derive htext policy
  · rintro draw rfl
    exact create_eq_commit htext policy
  · exact fun old new => migrate_eq
  · rintro S p birthYear challenge rfl
    exact ⟨fun e h => LoginProver.exists_commit_of_proveLogin h,
      fun err h hne hchallenge => LoginProver.proveLogin_of_commit hne hchallenge h⟩

/-- A login carries the commitment of its secret, which is the same for another spelling of the salt
and under the policy of another year.  There is none with one KiB less than the least, or with one
digit less. -/
theorem makers_agree_sample : ∃ value e,
    commit [1] "000102030405ABCD" LoginVerifier.samplePolicy = .ok value
      ∧ commit [1] " 000102030405abcd\n" .default = .ok value
      ∧ LoginVerifier.sampleProver.proveLogin [1] 1990 7 "000102030405ABCD" = .ok e
      ∧ e.commitment = some value.toDecimal
      ∧ (∃ e, commit [1] "000102030405ABCD" (.sampleAt ⟨31, 1⟩) = .error (.invalidPolicy e))
      ∧ ∃ reason, commit [1] "000102030405ABC" .default = .error (.saltDecode reason) := by
  let salt : Salt := ⟨[0, 1, 2, 3, 4, 5, 0xAB, 0xCD], by decide⟩
  have hspelling : Salt.IsSpelling "000102030405ABCD" := Salt.exists_ofHex_iff.mp ⟨salt, rfl⟩
  have hsalt (s : Salt) (h : Salt.ofHex "000102030405ABCD" = .ok s) :
      s.octets.length < 0x100000000 := s.length_octets_lt h (by decide)
  obtain ⟨-, -, hvalue, -, hsame, -, hlogin⟩ :=
    makers_agree [1] "000102030405ABCD" LoginVerifier.samplePolicy (by decide) hsalt
  obtain ⟨value, hcommit⟩ := hvalue.mpr ⟨hspelling, by decide, by decide⟩
  obtain ⟨derived, hderived⟩ :
      ∃ derived, deriveWith [1] salt LoginVerifier.samplePolicy = .ok derived :=
    exists_deriveWith rfl (by decide) (by decide)
  have hprove : LoginVerifier.sampleProver.proveLogin [1] 1990 7 "000102030405ABCD" = .ok _ :=
    LoginProver.proveLogin_eq_ok rfl (by decide) (by decide) rfl hderived rfl
  obtain ⟨value', hcommit', hcarried⟩ := (hlogin _ LoginVerifier.sampleProver 1990 7 rfl).1 _ hprove
  obtain rfl := Except.ok.inj (hcommit.symm.trans hcommit')
  refine ⟨value, _, hcommit, ?_, hprove, hcarried, ?_, ?_⟩
  · exact ((hsame salt rfl).1 " 000102030405abcd\n" .default rfl rfl).trans hcommit
  · obtain ⟨-, hcost, -⟩ :=
      makers_agree [1] "000102030405ABCD" (.sampleAt ⟨31, 1⟩) (by decide) hsalt
    exact hcost.mpr ⟨hspelling, .inr (by decide)⟩
  · obtain ⟨hnot, -⟩ := makers_agree [1] "000102030405ABC" .default (by decide)
      fun s h => s.length_octets_lt h (by decide)
    exact hnot.mpr fun h => absurd h.even (by decide)

end Commitment

end ProofLogin
