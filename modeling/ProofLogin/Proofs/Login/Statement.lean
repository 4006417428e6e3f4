import ProofLogin.Proofs.Login.Age
import ProofLogin.Proofs.Proof.Binding
import ProofLogin.Proofs.Proof.Key

/-!
# Proofs/Login/Statement — a proof is checked against the statement that its key carries

    mark   circuit   digest of the statement   seed
             │                 │                 └──▸ key of the keyed digest
             │                 └──▸ transcript: digest of the statement, public inputs
             └──▸ requireCircuit

A key says twice what it is for, and each of the two is looked at in a place of its own.  Which keys
a verifier takes is decided by the circuit alone (`exists_of_iff`, `exists_withKey_iff`,
`exists_withAgeKey_iff`): the digest that a key carries is the one that it was read with, whatever
the statement of the circuit is by then.  But the digest is part of what is digested under the
seed, so that what a verifier accepts was made with a key of the same statement for the same inputs,
up to a collision (`Transparent.verifies_own`).
-/

namespace ProofLogin

/-! ## Transcripts -/

namespace Transparent

variable {k k' : KeyMaterial} {p q : PublicInputs} {key : VerifyingKey} {proof : Bytes}

/-- **What is digested tells statements apart, and public inputs.** -/
theorem transcript_eq_iff : transcript k p = transcript k' q ↔ k.digest = k'.digest ∧ p = q := by
  constructor
  · intro h
    obtain ⟨hdigest, hinputs⟩ := List.append_inj h
      (k.digest.length_toBytes.trans k'.digest.length_toBytes.symm)
    exact ⟨Bytes32.ext hdigest, PublicInputs.canonicalBytes_injective hinputs⟩
  · rintro ⟨hdigest, rfl⟩
    rw [transcript, transcript, hdigest]

/-- **A proof that is checked against the statement of its key**: it is the keyed digest of that
statement and the inputs, and whoever made it had a key of that statement and made it for those
inputs, or has found two transcripts of one keyed digest. -/
structure VerifiesOwn (key : VerifyingKey) (p : PublicInputs) (proof : Bytes) : Prop where
  circuit_eq : p.circuit = key.circuit
  proof_eq : proof = 0x01 :: (Hmac.hash key.material.seed.toBytes
    (key.material.digest.toBytes ++ p.canonicalBytes)).toBytes
  maker : ∀ (maker : ProvingKey) q w, prove maker q w = .ok proof →
    maker.material.digest = key.material.digest ∧ q = p
      ∨ transcript maker.material q ≠ transcript key.material p
        ∧ Hmac.hash maker.material.seed.toBytes (transcript maker.material q)
          = Hmac.hash key.material.seed.toBytes (transcript key.material p)

/-- **A key accepts nothing of another statement**, up to a collision. -/
theorem verifies_own (h : verify key p proof = .ok ()) : VerifiesOwn key p proof := by
  obtain ⟨hcircuit, hproof⟩ := verify_eq_ok_iff.mp h
  refine ⟨hcircuit, hproof, fun maker q w hprove => ?_⟩
  obtain ⟨-, hmade⟩ := prove_eq_ok_iff.mp hprove
  by_cases heq : transcript maker.material q = transcript key.material p
  · exact .inl (transcript_eq_iff.mp heq)
  · exact .inr ⟨heq, Bytes32.ext (List.cons.inj (hmade.symm.trans hproof)).2⟩

end Transparent

/-! ## Keys that a verifier takes -/

namespace LoginVerifier

open Transparent (VerifiesOwn verifies_own)

variable {v : LoginVerifier} {registry : KeyRegistry} {store : ReplayStore} {token userId : String}
  {e : Envelope} {stored : Commitment} {now : Int64} {c : Claims} {key : VerifyingKey}
  {moment : Instant}

/-- **A verifier is made of any key for logins**, if its policy is valid and that of its service. -/
theorem exists_of_iff {policy : Policy} {tokens : TokenService} :
    (∃ v : LoginVerifier, LoginVerifier.of key policy .development tokens = .ok v) ↔
      policy.validate = .ok () ∧ key.circuit = .auth ∧ tokens.paramsVersion = policy.version := by
  constructor
  · rintro ⟨v, h⟩
    obtain ⟨-, -, h⟩ := Outcome.bind_eq_ok.mp h
    obtain ⟨⟨⟩, hpolicy, h⟩ := Outcome.bind_eq_ok.mp h
    obtain ⟨⟨⟩, hcircuit, h⟩ := Outcome.bind_eq_ok.mp h
    obtain ⟨hversion, -⟩ := Outcome.ite_ok_eq_ok.mp h
    exact ⟨Outcome.mapError_eq_ok.mp hpolicy,
      requireCircuit_eq_ok_iff.mp (Outcome.mapError_eq_ok.mp hcircuit), hversion⟩
  · rintro ⟨hpolicy, hcircuit, hversion⟩
    exact ⟨_, of_eq_ok hpolicy hcircuit hversion⟩

/-- A key is taken for its circuit, and for nothing else about it. -/
theorem exists_requireCircuit_iff {needed : Circuit} {w : LoginVerifier} :
    (∃ w', ((requireCircuit needed key.circuit).mapError LoginError.setup >>= fun _ => pure w)
      = .ok w') ↔ key.circuit = needed := by
  rw [← requireCircuit_eq_ok_iff]
  simp only [Outcome.bind_eq_ok, Outcome.mapError_eq_ok, Outcome.pure_eq_ok]
  constructor
  · rintro ⟨w', _, hcircuit, -⟩
    exact hcircuit
  · exact fun hcircuit => ⟨w, _, hcircuit, rfl⟩

theorem exists_withKey_iff : (∃ w, v.withKey key = .ok w) ↔ key.circuit = .auth :=
  exists_requireCircuit_iff

theorem exists_withAgeKey_iff : (∃ w, v.withAgeKey key = .ok w) ↔ key.circuit = .age :=
  exists_requireCircuit_iff

/-! ## Proofs that a verifier admits -/

theorem exists_verifiesOwn_of_verifyLogin
    (h : (v.verifyLogin registry store token e userId stored now).1 = .ok c) :
    ∃ k ∈ v.authKeys, VerifiesOwn k.2 (v.inputs stored c.challenge) e.proof := by
  obtain ⟨key, hauthorize, -, haccepted⟩ := verifyLogin_eq_ok_iff.mp h
  obtain ⟨-, -, -, K, -, -, -, -, -, hkey, -⟩ := authorize_eq_ok_iff.mp hauthorize
  exact ⟨(K, key), Ordered.mem_of_lookup hkey, verifies_own haccepted⟩

theorem exists_verifiesOwn_of_verifyAge (h : v.verifyAge registry e moment = .ok ()) :
    ∃ k ∈ v.ageKey, VerifiesOwn k.2 (.age (.of v.policy)) e.proof := by
  cases hkey : v.ageKey with
  | none =>
    rw [verifyAge_of_none hkey] at h
    cases h
  | some k =>
    obtain ⟨-, -, -, haccepted⟩ := (verifyAge_eq_ok_iff (K := k.1) hkey).mp h
    exact ⟨k, rfl, verifies_own haccepted⟩

/-- **The statement that a key carries is the one that proofs are checked against.**  The digest of
a key that is read is what stands in its octets, and every digest is read.  Keys that are drawn
carry the digest of the statement as it is, and still do when they have been written and read.  A
verifier takes a key for its circuit, whatever digest it carries, and holds none for another one;
but what it admits is the keyed digest of the statement that the key carries, and was made with a
key that carries the same one. -/
theorem carried_statement_checked :
    (∀ bs, (∀ k, ProvingKey.ofBytes bs = .ok k → k.material.digest.toBytes = (bs.drop 9).take 32)
        ∧ ∀ k, VerifyingKey.ofBytes bs = .ok k → k.material.digest.toBytes = (bs.drop 9).take 32)
      ∧ (∀ k : KeyMaterial, ProvingKey.ofBytes (k.toBytes .proving) = .ok ⟨k⟩
        ∧ VerifyingKey.ofBytes (k.toBytes .verifying) = .ok ⟨k⟩)
      ∧ (∀ circuit seed pk vk, KeyMaterial.pair circuit seed = (pk, vk) →
        pk.material.digest = pk.circuit.digest ∧ vk.material.digest = vk.circuit.digest
          ∧ pk.circuit = circuit ∧ vk.circuit = circuit)
      ∧ (∀ (key : VerifyingKey) policy tokens,
        (∃ v : LoginVerifier, LoginVerifier.of key policy .development tokens = .ok v) ↔
          policy.validate = .ok () ∧ key.circuit = .auth ∧ tokens.paramsVersion = policy.version)
      ∧ ∀ v : LoginVerifier, (∀ key, (∃ w, v.withKey key = .ok w) ↔ key.circuit = .auth)
        ∧ (∀ key, (∃ w, v.withAgeKey key = .ok w) ↔ key.circuit = .age)
        ∧ (v.Built → (∀ k ∈ v.authKeys, k.2.circuit = .auth) ∧ ∀ k ∈ v.ageKey, k.2.circuit = .age)
        ∧ (∀ registry store token e userId stored now c,
          (v.verifyLogin registry store token e userId stored now).1 = .ok c →
            ∃ k ∈ v.authKeys, VerifiesOwn k.2 (v.inputs stored c.challenge) e.proof)
        ∧ ∀ registry e moment, v.verifyAge registry e moment = .ok () →
          ∃ k ∈ v.ageKey, VerifiesOwn k.2 (.age (.of v.policy)) e.proof := by
  refine ⟨fun bs => ⟨fun k hk => ?_, fun k hk => ?_⟩, fun k => ⟨?_, ?_⟩, ?_,
    fun key policy tokens => exists_of_iff, fun v => ⟨fun key => exists_withKey_iff,
      fun key => exists_withAgeKey_iff, fun hv => ⟨hv.wellFormed.circuit_eq,
        fun k hk => (hv.ageKey k hk).1⟩,
      fun registry store token e userId stored now c => exists_verifiesOwn_of_verifyLogin,
      fun registry e moment => exists_verifiesOwn_of_verifyAge⟩⟩
  · obtain ⟨-, -, -, hdigest, -⟩ :=
      KeyMaterial.parts_of_ofBytes (ProvingKey.ofBytes_eq_ok_iff.mp hk)
    exact hdigest.symm
  · obtain ⟨-, -, -, hdigest, -⟩ :=
      KeyMaterial.parts_of_ofBytes (VerifyingKey.ofBytes_eq_ok_iff.mp hk)
    exact hdigest.symm
  · exact ProvingKey.ofBytes_eq_ok_iff.mpr (KeyMaterial.ofBytes_eq_ok_iff.mpr rfl)
  · exact VerifyingKey.ofBytes_eq_ok_iff.mpr (KeyMaterial.ofBytes_eq_ok_iff.mpr rfl)
  · rintro circuit seed pk vk hpair
    obtain ⟨rfl, rfl⟩ := Prod.mk.inj hpair
    exact ⟨rfl, rfl, rfl, rfl⟩

/-! ## A key of another statement -/

/-- A key with the seed of the login key that carries the digest of no statement. -/
def staleKey (circuit : Circuit) : VerifyingKey :=
  ⟨circuit, ⟨List.replicate 32 0xFF, by decide⟩, sampleKey.material.seed⟩

/-- The octets that spell it, behind the octet of the circuit. -/
def staleOctets : Bytes := List.replicate 32 0xFF ++ List.replicate 32 0

/-- A verifier with such a key for age proofs. -/
def staleVerifier : LoginVerifier :=
  { sample with ageKey := some ((staleKey .age).fingerprint, staleKey .age) }

/-- A registry that trusts the key for good. -/
def staleRegistry : KeyRegistry :=
  ⟨[⟨"1", (staleKey .age).fingerprint, (staleKey .age).fingerprint, .epoch, none, false⟩], none, 0⟩

/-- A proof of the other statement is admitted by the verifier that holds its key. -/
theorem carried_statement_sample :
    let e := LoginProver.ageEnvelope staleVerifier (staleKey .age).fingerprint (staleKey .age)
    VerifyingKey.ofBytes (KeyRole.verifying.mark ++ 2 :: staleOctets) = .ok (staleKey .age)
      ∧ sample.withAgeKey (staleKey .age) = .ok staleVerifier
      ∧ staleVerifier.verifyAge staleRegistry e (.ofUnix 0) = .ok ()
      ∧ VerifiesOwn (staleKey .age) (.age (.of staleVerifier.policy)) e.proof := by
  intro e
  obtain ⟨-, hread, -, -, hverifiers⟩ := carried_statement_checked
  have hwith : sample.withAgeKey (staleKey .age) = .ok staleVerifier := rfl
  have hvalid : staleRegistry.isValidAt (staleKey .age).fingerprint (.ofUnix 0) = true := by
    simp [KeyRegistry.isValidAt, KeyRegistry.find?, staleRegistry, KeyVersion.isExpiredAt]
  have hadmitted : staleVerifier.verifyAge staleRegistry e (.ofUnix 0) = .ok () :=
    (verifyAge_eq_ok_iff_admitsAge (.withAgeKey built_sample hwith) rfl).mpr
      (LoginProver.admitsAge_ageEnvelope_iff.mpr hvalid)
  obtain ⟨-, -, -, -, hage⟩ := hverifiers staleVerifier
  obtain ⟨k, hk, hown⟩ := hage staleRegistry e (.ofUnix 0) hadmitted
  obtain rfl := Option.some.inj hk
  exact ⟨(hread (staleKey .age).material).2, hwith, hadmitted, hown⟩

/-- A key that carries no digest of a statement is read, and a verifier is made of it. -/
theorem stale_key_accepted :
    VerifyingKey.ofBytes (KeyRole.verifying.mark ++ 1 :: staleOctets) = .ok (staleKey .auth)
      ∧ (staleKey .auth).material.digest ≠ (staleKey .auth).circuit.digest
      ∧ ∃ v : LoginVerifier, LoginVerifier.of (staleKey .auth) .default .development .sample = .ok v
        ∧ ((staleKey .auth).fingerprint, staleKey .auth) ∈ v.authKeys :=
  ⟨VerifyingKey.ofBytes_eq_ok_iff.mpr (KeyMaterial.ofBytes_eq_ok_iff.mpr rfl), by decide +kernel,
    _, of_eq_ok rfl rfl rfl, List.mem_cons_self⟩

end LoginVerifier

end ProofLogin
