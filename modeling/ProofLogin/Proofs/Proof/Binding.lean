import ProofLogin.Proofs.Login.Prover
import ProofLogin.Proofs.Proof.Circuit

/-!
# Proofs/Proof/Binding — a proof is a proof of one statement

    prove   inputs, witness ──check──▸ 0x01, keyed digest of (digest of the circuit, inputs)
    verify  inputs, octets  ──shape──▸ circuit ──▸ the same octets

What is digested says the inputs (`transcript_injective`), so octets that a key accepts for two
public inputs show two octet strings with one keyed digest (`hash_eq_of_verify`).
`prove_verify_bind` puts prover and verifier side by side.
-/

namespace ProofLogin.Transparent

variable {k : KeyMaterial} {p q : PublicInputs} {proof : Bytes}

/-- **No two public inputs are digested alike.** -/
theorem transcript_injective (k : KeyMaterial) : Function.Injective (transcript k) := fun _ _ h =>
  PublicInputs.canonicalBytes_injective (List.append_cancel_left h)

/-- What a key accepts for two public inputs is the keyed digest of both. -/
theorem hash_eq_of_verify (hp : verify ⟨k⟩ p proof = .ok ()) (hq : verify ⟨k⟩ q proof = .ok ()) :
    Hmac.hash k.seed.toBytes (transcript k p) = Hmac.hash k.seed.toBytes (transcript k q) := by
  obtain ⟨-, hp⟩ := verify_eq_ok_iff.mp hp
  obtain ⟨-, hq⟩ := verify_eq_ok_iff.mp hq
  exact Bytes32.ext (List.cons.inj (hp.symm.trans hq)).2

/-- **Prover and verifier agree, and a proof binds its statement.**  With the keys of one material,
a proof is made exactly of statements of their circuit, for every witness that satisfies them and
the same for each; it is malformed by its length and its first octet alone; it is accepted exactly
when it is what the prover makes.  What is digested tells all public inputs of both circuits apart:
octets that are accepted for two of them are a collision of the keyed digest under the seed. -/
theorem prove_verify_bind (k : KeyMaterial) :
    (∀ p w, (∃ proof, prove ⟨k⟩ p w = .ok proof) ↔
        p.circuit = k.circuit ∧ Circuit.check p w = .ok ())
      ∧ (∀ p w w', Circuit.check p w = .ok () → Circuit.check p w' = .ok () →
        prove ⟨k⟩ p w = prove ⟨k⟩ p w')
      ∧ (∀ p proof, (∃ reason, verify ⟨k⟩ p proof = .error (.malformedProof reason)) ↔
        proof.length ≠ 33 ∨ proof.head? ≠ some 0x01)
      ∧ (∀ p proof, verify ⟨k⟩ p proof = .ok () ↔ p.circuit = k.circuit
        ∧ proof = 0x01 :: (Hmac.hash k.seed.toBytes
          (k.digest.toBytes ++ p.canonicalBytes)).toBytes)
      ∧ (∀ p w made proof, prove ⟨k⟩ p w = .ok made → (verify ⟨k⟩ p proof = .ok () ↔ proof = made))
      ∧ Function.Injective (fun p : PublicInputs => k.digest.toBytes ++ p.canonicalBytes)
      ∧ ∀ p q proof, verify ⟨k⟩ p proof = .ok () → verify ⟨k⟩ q proof = .ok () → p = q ∨
        k.digest.toBytes ++ p.canonicalBytes ≠ k.digest.toBytes ++ q.canonicalBytes
          ∧ Hmac.hash k.seed.toBytes (k.digest.toBytes ++ p.canonicalBytes)
            = Hmac.hash k.seed.toBytes (k.digest.toBytes ++ q.canonicalBytes) := by
  refine ⟨fun p w => ?_, fun p w w' hw hw' => ?_, fun p proof => exists_verify_eq_malformed_iff,
    fun p proof => verify_eq_ok_iff, fun p w made proof hprove => ?_, transcript_injective k,
    fun p q proof hp hq => ?_⟩
  · simp only [prove_eq_ok_iff, exists_and_left, exists_eq, and_true, ProvingKey.circuit]
  · rw [prove, prove, hw, hw']
  · obtain ⟨⟨hcircuit, -⟩, rfl⟩ := prove_eq_ok_iff.mp hprove
    rw [verify_eq_ok_iff]
    exact and_iff_right hcircuit
  · by_cases h : p = q
    · exact .inl h
    · exact .inr ⟨fun htranscript => h (transcript_injective k htranscript),
        hash_eq_of_verify hp hq⟩

/-! ## A statement with two witnesses -/

/-- What the login keys of a seed hold. -/
def sampleMaterial : KeyMaterial := .ofSeed .auth ⟨List.replicate 32 7, by decide⟩

/-- A salt of ones. -/
def sampleSalt : Salt := ⟨List.replicate 8 1, by decide⟩

/-- A login for the commitment of a secret that has been derived as 5. -/
def sampleInputs : PublicInputs :=
  .auth (.of (Commitment.ofDerived (.ofNat 5) sampleSalt) sampleSalt 7 .default)

/-- Two years of birth give the same proof, which is accepted alone, and not with an octet more. -/
theorem prove_verify_sample : ∃ made,
    prove ⟨sampleMaterial⟩ sampleInputs (.auth (.ofNat 5) 1990) = .ok made
      ∧ prove ⟨sampleMaterial⟩ sampleInputs (.auth (.ofNat 5) 2005) = .ok made
      ∧ (∀ proof, verify ⟨sampleMaterial⟩ sampleInputs proof = .ok () ↔ proof = made)
      ∧ ∃ reason, verify ⟨sampleMaterial⟩ sampleInputs (made ++ [0])
        = .error (.malformedProof reason) := by
  obtain ⟨hproves, hsame, hmalformed, -, hagree, -⟩ := prove_verify_bind sampleMaterial
  have hyounger : Circuit.check sampleInputs (.auth (.ofNat 5) 2005) = .ok () :=
    Circuit.check_auth (by decide)
  have holder : Circuit.check sampleInputs (.auth (.ofNat 5) 1990) = .ok () :=
    Circuit.check_auth (by decide)
  obtain ⟨made, hmade⟩ := (hproves sampleInputs (.auth (.ofNat 5) 1990)).mpr ⟨rfl, holder⟩
  refine ⟨made, hmade, (hsame _ _ _ hyounger holder).trans hmade, fun proof => hagree _ _ _ _ hmade,
    (hmalformed _ _).mpr (.inl ?_)⟩
  obtain ⟨-, rfl⟩ := prove_eq_ok_iff.mp hmade
  rw [List.length_append, length_proofOf]
  decide

end ProofLogin.Transparent
