import ProofLogin.Proofs.Login.Prover
import ProofLogin.Proofs.Login.Verifier
import ProofLogin.Proofs.Proof.Envelope
import ProofLogin.Proofs.Token.Issue

/-!
# Proofs/Login/Completeness — who knows the secret and is of age gets in

    verifier                                   prover
    issueChallenge  ──── token, challenge ──▸  proveLogin
    verifyLogin     ◂─── token, envelope ────

Neither side can get stuck.  A verifier that holds the active key has a challenge for every user
(`WellFormed.issueChallenge_eq_ok`), and its bundle makes a prover of the matching proving key.
What the prover answers names that key, not the active one, so it agrees with the verifier in every
later state of the registry in which the key is trusted (`WellFormed.admits_of_issuedClaims`).
`verifyLogin_complete` puts the two sides together, with the envelope as it comes out of its text.
-/

namespace ProofLogin.LoginVerifier

variable {v : LoginVerifier} {registry : KeyRegistry} {store : ReplayStore} {userId : String}
  {now : Int64} {vkId : Fingerprint} {kid : String} {key : TokenKey}

/-! ## The challenge -/

/-- The active key is the one of a version that the registry finds, if the verifier holds it. -/
theorem activeVkId_of_getActive {version : KeyVersion} {vk : VerifyingKey}
    (hactive : registry.getActive = .ok version) (hheld : v.authKey? version.vkId = some vk) :
    v.activeVkId registry = .ok version.vkId := by
  obtain ⟨name, hname, hfind⟩ := KeyRegistry.getActive_eq_ok_iff.mp hactive
  obtain rfl := KeyRegistry.vkId_of_find? hfind
  exact activeVkId_eq_ok_iff.mpr ⟨hname, ⟨version, hfind⟩, holds_iff.mpr ⟨vk, hheld⟩⟩

theorem WellFormed.paramsVersion_ne (hv : v.WellFormed) : v.tokens.paramsVersion ≠ "" := by
  rw [hv.paramsVersion_eq]
  exact Hex.encode_bytes32_ne_empty _

/-- **A verifier that holds the active key has a challenge for every user.** -/
theorem WellFormed.issueChallenge_eq_ok (hv : v.WellFormed)
    (hactive : v.activeVkId registry = .ok vkId)
    (hkey : v.tokens.keys.signingKey = .ok (kid, key)) (huser : userId ≠ "")
    (hend : TokenService.addSaturating now v.tokens.ttl ≠ 0) (draw : Draw) :
    v.issueChallenge registry userId now draw = .ok ⟨Token.ofPayload key
        (v.tokens.issuedClaims userId vkId.toHex now draw kid).payload,
      draw.challengeNumber, draw.idText, TokenService.addSaturating now v.tokens.ttl⟩ := by
  rw [issueChallenge, if_neg huser, hactive]
  exact TokenService.issueFor_eq_ok hkey hv.paramsVersion_ne huser hend

/-! ## The answer -/

/-- **What a prover answers to the challenge agrees with the verifier**, in every state of the
registry and of the store in which the key is trusted and the token unused. -/
theorem WellFormed.admits_of_issuedClaims (hv : v.WellFormed) {vk : VerifyingKey}
    (hheld : v.authKey? vkId = some vk) (hkey : v.tokens.keys.select (some kid) = .ok key)
    (huser : userId ≠ "") {t : Int64} (ht : t < TokenService.addSaturating now v.tokens.ttl)
    (hvalid : registry.isValidAt vkId (.ofUnix t) = true) {draw : Draw}
    (hunused : store.contains draw.idText = false) (stored : Commitment) :
    v.Admits registry store
      (Token.ofPayload key (v.tokens.issuedClaims userId vkId.toHex now draw kid).payload)
      { proof := Transparent.proofOf vk.material (v.inputs stored draw.challengeNumber)
        proofVersion := Circuit.auth.proofVersion
        vkId := vkId.toHex
        paramsVersion := v.policy.version
        commitment := some stored.value.toDecimal
        salt := some stored.salt.toHex }
      userId stored t (v.tokens.issuedClaims userId vkId.toHex now draw kid) vkId where
  token_ne := Token.ofPayload_ne_empty _ _
  userId_ne := huser
  proofVersion_eq := rfl
  valid := hvalid
  names := .inl rfl
  paramsVersion_eq := .inr rfl
  signs := TokenService.signs_issuedClaims hkey
  now_lt := ht
  claims_vkId_eq := rfl
  claims_paramsVersion_eq := hv.paramsVersion_eq
  claims_version_eq := .inr rfl
  claims_userId_eq := rfl
  commitment_eq := fun _ h => (Option.some.inj h).symm
  salt_eq := fun _ h => Option.some.inj h ▸ stored.salt.ofHex_toHex
  jti_ne := draw.idText_ne_empty
  unused := hunused
  proof_eq := ⟨vk, hheld, rfl⟩

/-! ## Both sides -/

/-- **Whoever knows the secret and is of age gets in.**  Let a verifier hold the active key, of any
seed, and a service with any keys and any time to live of 63 bits.  Then it has a challenge for
every user and every draw, and its bundle makes a prover of the matching key.  The prover answers
for every secret, every spelling of a salt and every year of birth that is early enough, and the
answer comes back from its JSON text as it was.  With the commitment that was stored, it is admitted
until the token ends or is used, as long as the key is trusted, whatever registering, activating and
deprecating keys have made of the registry since. -/
theorem verifyLogin_complete {keys : KeySet} {ttl : UInt64} {seed : Bytes32} {pk : ProvingKey}
    {vk : VerifyingKey} {version : KeyVersion} (hv : v.Built) (hkeys : keys.Built)
    (htokens : TokenService.of keys v.policy ttl = .ok v.tokens)
    (hpair : KeyMaterial.pair .auth seed = (pk, vk))
    (hheld : v.authKey? vk.fingerprint = some vk) (hactive : registry.getActive = .ok version)
    (hname : version.vkId = vk.fingerprint) (huser : userId ≠ "") (hstart : 0 ≤ now)
    (hend : now < Int64.maxValue) (draw : Draw) :
    ∃ issued bundle, ∃ p : LoginProver, v.issueChallenge registry userId now draw = .ok issued
      ∧ now < issued.expiresAt
      ∧ v.bundle registry = .ok bundle ∧ LoginProver.of pk bundle = .ok p
      ∧ ∀ (secret : Bytes) (text : String) (salt : Salt) (birthYear : Int32), secret ≠ [] →
        secret.length < 0x100000000 → Salt.ofHex text = .ok salt →
        salt.octets.length < 0x100000000 →
        v.policy.limitAge.toInt ≤ v.policy.targetYear.toInt - birthYear.toInt →
        ∃ value e, Commitment.commit secret text v.policy = .ok value
          ∧ p.proveLogin secret birthYear issued.challenge text = .ok e
          ∧ (Json.Tree.ofText? e.toJson.render).bind Envelope.ofJson? = some e
          ∧ ∀ (later : KeyRegistry) (store : ReplayStore) (t : Int64), t < issued.expiresAt →
            later.isValidAt vk.fingerprint (.ofUnix t) = true →
            store.contains issued.jti = false →
            ∃ c, (v.verifyLogin later store issued.token e userId ⟨value, salt⟩ t).1 = .ok c
              ∧ c.userId = userId ∧ c.challenge = issued.challenge ∧ c.jti = issued.jti
              ∧ c.expiresAt = issued.expiresAt := by
  have hwell := hv.wellFormed
  obtain ⟨hcircuit, rfl⟩ : vk.circuit = .auth ∧ ⟨vk.material⟩ = pk := by
    obtain ⟨rfl, rfl⟩ := Prod.mk.inj hpair
    exact ⟨rfl, rfl⟩
  obtain ⟨kid, key, hsigning, hselect⟩ := TokenService.exists_signingKey htokens hkeys
  have hlt : now < TokenService.addSaturating now v.tokens.ttl :=
    TokenService.lt_addSaturating_ttl htokens hend
  have hnonzero : TokenService.addSaturating now v.tokens.ttl ≠ 0 := fun h =>
    Int64.lt_irrefl (Int64.lt_of_le_of_lt hstart (h ▸ hlt))
  have hvk := activeVkId_of_getActive hactive (hname ▸ hheld)
  rw [hname] at hvk
  have hissue := hwell.issueChallenge_eq_ok hvk hsigning huser hnonzero draw
  have hbundle : v.bundle registry = .ok (.of v.policy _) := Outcome.map_eq_ok.mpr ⟨_, hvk, rfl⟩
  let p : LoginProver := ⟨⟨vk.material⟩, .of v.policy vk.fingerprint, none⟩
  refine ⟨_, _, p, hissue, hlt, hbundle, LoginProver.of_eq_ok hcircuit, ?_⟩
  intro secret text salt birthYear hsecret hlength htext hsalt hage
  obtain ⟨derived, hderived⟩ := Commitment.exists_deriveWith hwell.validate_eq hlength hsalt
  have hprove : p.proveLogin secret birthYear draw.challengeNumber text = .ok _ :=
    LoginProver.proveLogin_eq_ok hcircuit hsecret draw.challengeNumber_ne_zero htext hderived
      (Circuit.isOfAge_iff.mpr hage)
  refine ⟨_, _, Commitment.commit_eq_ok htext hderived, hprove, Envelope.ofText?_render _, ?_⟩
  intro later store t ht hvalid hunused
  have hadmits := hwell.admits_of_issuedClaims hheld hselect huser ht hvalid hunused
    ⟨Commitment.ofDerived derived salt, salt⟩
  exact ⟨_, hadmits.verifyLogin_eq_ok hwell, rfl, rfl, rfl, rfl⟩

/-! ## A rotation in flight -/

/-- The name of another key. -/
def otherName : Fingerprint := ⟨⟨List.replicate 32 1, by decide⟩⟩

/-- The registry after a rotation: another key is active, and the first one has an hour left. -/
def rotatedRegistry : KeyRegistry :=
  ⟨[⟨"1", sampleKey.fingerprint, sampleKey.fingerprint, .epoch, some (.ofUnix 3600), false⟩,
    ⟨"2", otherName, otherName, .epoch, none, true⟩], some otherName, 3600⟩

/-- A user born in 1990 gets in with a challenge that was issued before the rotation. -/
theorem verifyLogin_complete_sample :
    ∃ issued value e c, sample.issueChallenge sampleRegistry "alice" 0 ⟨1, 2, 3⟩ = .ok issued
      ∧ Commitment.commit [1] " 000102030405ABCD\n" sample.policy = .ok value
      ∧ (Json.Tree.ofText? e.toJson.render).bind Envelope.ofJson? = some e
      ∧ (sample.verifyLogin rotatedRegistry (.memory []) issued.token e "alice"
          ⟨value, ⟨[0, 1, 2, 3, 4, 5, 0xAB, 0xCD], by decide⟩⟩ 0).1 = .ok c
      ∧ c.userId = "alice" := by
  have hheld : sample.authKey? sampleKey.fingerprint = some sampleKey := by simp [authKey?, sample]
  have hactive : sampleRegistry.getActive
      = .ok ⟨"1", sampleKey.fingerprint, sampleKey.fingerprint, .epoch, none, true⟩ :=
    KeyRegistry.getActive_eq_ok_iff.mpr
      ⟨sampleKey.fingerprint, rfl, List.find?_cons_of_pos (decide_eq_true rfl)⟩
  have hvalid : rotatedRegistry.isValidAt sampleKey.fingerprint (.ofUnix 0) = true := by
    have hfind : rotatedRegistry.find? sampleKey.fingerprint = some
        ⟨"1", sampleKey.fingerprint, sampleKey.fingerprint, .epoch, some (.ofUnix 3600), false⟩ :=
      List.find?_cons_of_pos (decide_eq_true rfl)
    rw [KeyRegistry.isValidAt, hfind]
    rfl
  have hkeys : TokenService.sample.keys.Built := .insertDefault .empty _ _
  have htokens : TokenService.of TokenService.sample.keys sample.policy 60 = .ok sample.tokens :=
    rfl
  obtain ⟨issued, bundle, p, hissue, hlt, -, -, hprove⟩ := verifyLogin_complete built_sample hkeys
    htokens rfl hheld hactive rfl (by decide : "alice" ≠ "") (by decide : (0 : Int64) ≤ 0)
    (by decide : (0 : Int64) < Int64.maxValue) ⟨1, 2, 3⟩
  obtain ⟨value, e, hcommit, -, hjson, hadmitted⟩ := hprove [1] " 000102030405ABCD\n" _ 1990
    (by decide) (by decide) rfl (by decide) (by decide)
  obtain ⟨c, hverify, huser, -⟩ := hadmitted rotatedRegistry (.memory []) 0 hlt hvalid rfl
  exact ⟨issued, value, e, c, hissue, hcommit, hjson, hverify, huser⟩

end ProofLogin.LoginVerifier
