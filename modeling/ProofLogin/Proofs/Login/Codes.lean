import ProofLogin.Proofs.Commitment.Batch
import ProofLogin.Proofs.Login.Provability

/-!
# Proofs/Login/Codes — which code the text of a salt or of a commitment is refused with

    commit, derive, migrate ‥   CommitmentError ──code──▸ E1005 for a salt, E1002 for a commitment
    proveLogin, verifyLogin     CommitmentError ──ofCommitment──▸ LoginError ──code──▸ E1002

An operation that stops at a text hands on the error of its reading.  The operations on commitments
hand it on as it is, so that its code tells a salt from a commitment (`SaltStops`,
`CommitmentStops`).  On the way into a login both become an error of one kind, and the code is that
of a commitment: behind a login no salt has the code of salts (`salt_code_lost_in_login`).
-/

namespace ProofLogin

variable {text : String} {err : CommitmentError}

/-! ## Codes -/

/-- The codes of a text that is no salt: that of salts, and behind a login that of commitments. -/
theorem Salt.codes_of_ofHex (h : ofHex text = .error err) :
    err.code.number = "E1005" ∧ (LoginError.ofCommitment err).code.number = "E1002" := by
  obtain ⟨reason, rfl⟩ := exists_saltDecode_of_ofHex h
  exact ⟨rfl, rfl⟩

/-- The codes of a text that is no commitment. -/
theorem FieldElement.codes_of_ofDecimal (h : ofDecimal text = .error err) :
    err.code.number = "E1002" ∧ (LoginError.ofCommitment err).code.number = "E1002" := by
  obtain ⟨reason, rfl⟩ := exists_commitmentParse_of_ofDecimal h
  exact ⟨rfl, rfl⟩

/-- **No error of a salt or a commitment has the code of salts behind a login.** -/
theorem LoginError.code_ofCommitment_ne (err : CommitmentError) :
    (ofCommitment err).code ≠ .saltParse := by
  cases err with
  | saltDecode | commitmentParse | kdf | commitmentMismatch => exact nofun
  | invalidPolicy e => cases e <;> exact nofun

/-! ## Migrations -/

section Migrations

variable {secret : Bytes} {salt expected : String} {old new : Policy} {entry : MigrationEntry}

theorem migrate_of_ofHex (h : Salt.ofHex text = .error err) :
    migrate secret text old new = .error err := by
  rw [migrate, h, Outcome.error_bind]

theorem verifyAndMigrate_of_ofDecimal (h : FieldElement.ofDecimal text = .error err) :
    verifyAndMigrate secret salt text old new = .error err := by
  rw [verifyAndMigrate, h, Outcome.error_bind]

/-- The salt is read after the commitment that is expected. -/
theorem verifyAndMigrate_of_ofHex
    (hexpected : ∃ value, FieldElement.ofDecimal expected = .ok value)
    (h : Salt.ofHex text = .error err) :
    verifyAndMigrate secret text expected old new = .error err := by
  obtain ⟨value, hvalue⟩ := hexpected
  rw [verifyAndMigrate, hvalue, Outcome.ok_bind, h, Outcome.error_bind]

/-- Whether a commitment is stored or none, the salt is read. -/
theorem MigrationEntry.run_of_ofHex (hstored : ∀ expected, entry.oldCommitment = some expected →
    expected = "" ∨ ∃ value, FieldElement.ofDecimal expected = .ok value)
    (h : Salt.ofHex entry.salt = .error err) : entry.run old new = .error err := by
  by_cases hnone : entry.oldCommitment = none ∨ entry.oldCommitment = some ""
  · rw [run_of_not_stored hnone, migrate_of_ofHex h]
  · obtain ⟨hnone, hempty⟩ := not_or.mp hnone
    obtain ⟨expected, hexpected⟩ := Option.ne_none_iff_exists'.mp hnone
    have hne : expected ≠ "" := fun hempty' => hempty (hempty' ▸ hexpected)
    rw [run_of_stored hexpected hne,
      verifyAndMigrate_of_ofHex ((hstored expected hexpected).resolve_left hne) h]

end Migrations

/-! ## What a login presents -/

namespace LoginVerifier

variable {S : ProofSystem} {v : LoginVerifier S} {registry : KeyRegistry} {store : ReplayStore}
  {token userId : String} {e : Envelope} {stored : Commitment} {now : Int64} {c : Claims}
  {key : S.VerifyingKey} {e' : LoginError}

theorem checkPresented_of_commitment (hpresented : e.commitment = some text)
    (h : FieldElement.ofDecimal text = .error err) :
    checkPresented e stored = .error (.ofCommitment err) := by
  rw [checkPresented, hpresented]
  simp only [h]
  rfl

/-- The salt is looked at where the commitment is the one that is stored. -/
theorem checkPresented_of_salt (hcommitment : ∀ t, e.commitment = some t →
    t = stored.value.toDecimal) (hpresented : e.salt = some text)
    (h : Salt.ofHex text = .error err) :
    checkPresented e stored = .error (.ofCommitment err) := by
  rw [checkPresented, hpresented]
  simp only [h]
  cases hvalue : e.commitment with
  | none => rfl
  | some t =>
    simp only [hcommitment t hvalue, FieldElement.ofDecimal_toDecimal]
    exact if_neg (not_not.mpr rfl)

/-- **What a login presents is checked last**: where everything else is checked with success, it is
the only thing that can refuse the login before its token is used up. -/
theorem verifyLogin_of_checkPresented
    (hauthorize : v.authorize registry token { e with commitment := none, salt := none } userId
      stored now = .ok (c, key)) (h : checkPresented e stored = .error e') :
    v.verifyLogin registry store token e userId stored now = (.error e', store) := by
  obtain ⟨htoken, huser, hcircuit, K, hresolve, henforce, hvalidate, hclaims, hvalid, hkey, -⟩ :=
    authorize_eq_ok_iff.mp hauthorize
  have hcircuit' : ¬e.circuit? ≠ some .auth := not_not.mpr hcircuit
  have hclaims' : ¬c.userId ≠ userId := not_not.mpr hclaims
  have hvalid' : ¬registry.isValidAt K (.ofUnix now) = false := by simp [hvalid]
  have hrefused : v.authorize registry token e userId stored now = .error e' := by
    rw [authorize, if_neg htoken, if_neg huser, if_neg hcircuit']
    simp only [hresolve, henforce, hvalidate, Outcome.ok_bind, if_neg hclaims', if_neg hvalid',
      hkey, h, Outcome.error_bind]
  exact verifyLogin_of_error hrefused

end LoginVerifier

/-! ## What a text stops -/

/-- **A text that is refused as a salt**, by every operation that comes to read it: with the code of
salts, and in a login with the code of commitments. -/
structure SaltStops (text : String) (err : CommitmentError) : Prop where
  code_eq : err.code.number = "E1005"
  commit : ∀ secret policy, Commitment.commit secret text policy = .error err
  derive : ∀ secret policy, Commitment.derive secret text policy = .error err
  migrate : ∀ secret old new, migrate secret text old new = .error err
  /-- The text of the expected commitment is read before. -/
  verifyAndMigrate : ∀ secret expected old new,
    (∃ value, FieldElement.ofDecimal expected = .ok value) →
      verifyAndMigrate secret text expected old new = .error err
  batch : ∀ costs base entries, ∀ entry ∈ entries, entry.salt = text →
    (∀ expected, entry.oldCommitment = some expected →
      expected = "" ∨ ∃ value, FieldElement.ofDecimal expected = .ok value) →
      ⟨entry.userId, "E1005", err.message⟩ ∈ (MigrationReport.ofEntries costs base entries).failed
  code_in_login : (LoginError.ofCommitment err).code.number = "E1002"
  proveLogin : ∀ (S : ProofSystem) (p : LoginProver S) secret birthYear challenge, secret ≠ [] →
    challenge ≠ 0 → p.proveLogin secret birthYear challenge text = .error (.ofCommitment err)
  /-- Everything else about the login is in order. -/
  verifyLogin : ∀ (S : ProofSystem) (v : LoginVerifier S) registry store token e userId stored now
    authorized,
    v.authorize registry token { e with commitment := none, salt := none } userId stored now
      = .ok authorized → (∀ t, e.commitment = some t → t = stored.value.toDecimal) →
    e.salt = some text →
      v.verifyLogin registry store token e userId stored now = (.error (.ofCommitment err), store)

/-- **A text that is refused as a commitment**, by every operation that comes to read it, with the
code of commitments. -/
structure CommitmentStops (text : String) (err : CommitmentError) : Prop where
  code_eq : err.code.number = "E1002"
  verifyAndMigrate : ∀ secret salt old new, verifyAndMigrate secret salt text old new = .error err
  /-- An empty text is none. -/
  batch : ∀ costs base entries, ∀ entry ∈ entries, entry.oldCommitment = some text → text ≠ "" →
    ⟨entry.userId, "E1002", err.message⟩ ∈ (MigrationReport.ofEntries costs base entries).failed
  code_in_login : (LoginError.ofCommitment err).code.number = "E1002"
  /-- Everything else about the login is in order, but for the salt, which is read after it. -/
  verifyLogin : ∀ (S : ProofSystem) (v : LoginVerifier S) registry store token e userId stored now
    authorized,
    v.authorize registry token { e with commitment := none, salt := none } userId stored now
      = .ok authorized → e.commitment = some text →
      v.verifyLogin registry store token e userId stored now = (.error (.ofCommitment err), store)

theorem saltStops_of_ofHex (h : Salt.ofHex text = .error err) : SaltStops text err := by
  obtain ⟨hcode, hlogin⟩ := Salt.codes_of_ofHex h
  have hcommit (secret : Bytes) (policy : Policy) :
      Commitment.commit secret text policy = .error err := by
    rw [Commitment.commit, h, Outcome.error_bind]
  have hderive (secret : Bytes) (policy : Policy) :
      Commitment.derive secret text policy = .error err := by
    rw [Commitment.derive, h, Outcome.error_bind]
  exact {
    code_eq := hcode
    commit := hcommit
    derive := hderive
    migrate := fun _ _ _ => migrate_of_ofHex h
    verifyAndMigrate := fun _ _ _ _ hexpected => verifyAndMigrate_of_ofHex hexpected h
    batch := by
      rintro costs base entries entry hentry rfl hstored
      exact hcode ▸ MigrationReport.mem_failed_of_run costs base hentry
        (MigrationEntry.run_of_ofHex hstored h)
    code_in_login := hlogin
    proveLogin := fun _ _ _ _ _ hsecret hchallenge =>
      LoginProver.proveLogin_of_commit hsecret hchallenge (hcommit _ _)
    verifyLogin := fun _ _ _ _ _ _ _ _ _ _ hauthorize hvalue hsalt =>
      LoginVerifier.verifyLogin_of_checkPresented hauthorize
        (LoginVerifier.checkPresented_of_salt hvalue hsalt h) }

theorem commitmentStops_of_ofDecimal (h : FieldElement.ofDecimal text = .error err) :
    CommitmentStops text err := by
  obtain ⟨hcode, hlogin⟩ := FieldElement.codes_of_ofDecimal h
  exact {
    code_eq := hcode
    verifyAndMigrate := fun _ _ _ _ => verifyAndMigrate_of_ofDecimal h
    batch := by
      rintro costs base entries entry hentry hstored hne
      refine hcode ▸ MigrationReport.mem_failed_of_run costs base hentry ?_
      rw [MigrationEntry.run_of_stored hstored hne, verifyAndMigrate_of_ofDecimal h]
    code_in_login := hlogin
    verifyLogin := fun _ _ _ _ _ _ _ _ _ _ hauthorize hvalue =>
      LoginVerifier.verifyLogin_of_checkPresented hauthorize
        (LoginVerifier.checkPresented_of_commitment hvalue h) }

/-- **Behind a login the code does not tell a salt from a commitment.**  A text that is no salt
stops every operation that comes to read it, and a text that is no commitment as well.  Where the
operation is one on commitments, the code is that of salts for the one and that of commitments for
the other; in a login it is that of commitments for both, and no refusal has the code of salts. -/
theorem salt_code_lost_in_login (text : String) :
    (∀ err, Salt.ofHex text = .error err → SaltStops text err)
      ∧ (∀ err, FieldElement.ofDecimal text = .error err → CommitmentStops text err)
      ∧ ∀ err, (LoginError.ofCommitment err).code ≠ .saltParse :=
  ⟨fun _ => saltStops_of_ofHex, fun _ => commitmentStops_of_ofDecimal,
    LoginError.code_ofCommitment_ne⟩

/-- No salt in hexadecimal digits, and a commitment with zeros in front, in a login that would be
admitted without them. -/
theorem salt_code_lost_in_login_sample :
    let salt := CommitmentError.saltDecode "Invalid character 'z' at position 0"
    let value := CommitmentError.commitmentParse "not a field element: \"007\""
    let stored : Commitment := ⟨.ofNat 5, ⟨List.replicate 8 0, by decide⟩⟩
    let e := LoginVerifier.sampleEnvelope stored
    let login (e : Envelope) := LoginVerifier.sample.verifyLogin LoginVerifier.sampleRegistry
      (.memory []) (Token.sample LoginVerifier.sampleKey.fingerprint.toHex) e "alice" stored 0
    Salt.ofHex "zz" = .error salt ∧ FieldElement.ofDecimal "007" = .error value
      ∧ salt.code.number = "E1005" ∧ Commitment.commit [1] "zz" .default = .error salt
      ∧ (LoginError.ofCommitment salt).code.number = "E1002"
      ∧ LoginProver.sample.proveLogin [1] 1990 7 "zz" = .error (.ofCommitment salt)
      ∧ login { e with salt := some "zz" } = (.error (.ofCommitment salt), .memory [])
      ∧ login { e with commitment := some "007" } = (.error (.ofCommitment value), .memory []) := by
  intro salt value stored e login
  have hsalt : Salt.ofHex "zz" = .error salt := rfl
  have hvalue : FieldElement.ofDecimal "007" = .error value := rfl
  have hadmitted := (LoginVerifier.admits_sample stored).verifyLogin_eq_ok
    LoginVerifier.built_sample.wellFormed
  obtain ⟨key, hauthorize, -⟩ := LoginVerifier.verifyLogin_eq_ok_iff.mp hadmitted
  obtain ⟨hsalts, -⟩ := salt_code_lost_in_login "zz"
  obtain ⟨-, hvalues, -⟩ := salt_code_lost_in_login "007"
  have hstops := hsalts salt hsalt
  exact ⟨hsalt, hvalue, hstops.code_eq, hstops.commit _ _, hstops.code_in_login,
    hstops.proveLogin _ _ _ _ _ (by decide) (by decide),
    hstops.verifyLogin _ _ _ _ _ _ _ _ _ _ hauthorize (fun _ h => nomatch h) rfl,
    (hvalues value hvalue).verifyLogin _ _ _ _ _ _ _ _ _ _ hauthorize rfl⟩

/-- **A prover that is given no salt reports a commitment that cannot be read**, where a commitment
under the same text reports a salt. -/
theorem salt_refused_as_commitment : ∃ err err',
    Commitment.commit [1] "zz" LoginProver.sample.bundle.config = .error err
      ∧ err.code.number = "E1005"
      ∧ LoginProver.sample.proveLogin [1] 1990 7 "zz" = .error err' ∧ err'.code.number = "E1002" :=
  ⟨.saltDecode "Invalid character 'z' at position 0", _, rfl, rfl, rfl, rfl⟩

end ProofLogin
