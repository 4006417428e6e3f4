import ProofLogin.Digest.Hmac
import ProofLogin.Proof.Key
import ProofLogin.Proof.System

/-!
# Proof/Transparent — proofs without zero knowledge

A proof is one octet for its format and a keyed digest of the public inputs under the seed of the
key, 33 octets altogether. It shows that the prover held the key and checked a witness; it hides
nothing from the verifier, who holds the same seed, so it is for development only.
-/

namespace ProofLogin

namespace Transparent

/-- The octet of the format. -/
def format : UInt8 := 1

/-- The number of octets of a proof. -/
def width : Nat := 33

/-- What is digested: the statement the key was made for, then the public inputs. -/
def transcript (k : KeyMaterial) (p : PublicInputs) : Bytes :=
  k.digest.toBytes ++ p.canonicalBytes

/-- The keyed digest of public inputs. -/
def tag (k : KeyMaterial) (p : PublicInputs) : Bytes32 :=
  Hmac.hash k.seed.toBytes (transcript k p)

/-- The proof that a key makes of public inputs. -/
def proofOf (k : KeyMaterial) (p : PublicInputs) : Bytes :=
  format :: (tag k p).toBytes

/-- **The proof of a statement**, if the key is for its circuit and the witness satisfies it. -/
def prove (k : ProvingKey) (p : PublicInputs) (w : Witness) : Except ProvingError Bytes :=
  if p.circuit ≠ k.circuit then
    .error <| .witness <|
      "proving key is for the " ++ k.circuit.name ++ " circuit, inputs are for " ++ p.circuit.name
  else match Circuit.check p w with
    | .error u => .error (.witness u.message)
    | .ok () => .ok (proofOf k.material p)

/-- **The check of a proof.** Its shape is looked at before what it is for. -/
def verify (k : VerifyingKey) (p : PublicInputs) (proof : Bytes) : Except VerificationError Unit :=
  match proof with
  | f :: mac =>
    if proof.length ≠ width then
      .error (.malformedProof (wrongLength proof.length))
    else if f ≠ format then
      .error (.malformedProof ("unsupported proof format " ++ toString f.toNat))
    else if p.circuit ≠ k.circuit then .error .verificationFailed
    else if mac = (tag k.material p).toBytes then .ok ()
    else .error .verificationFailed
  | [] => .error (.malformedProof (wrongLength 0))
where
  /-- The words for a proof of the wrong length. -/
  wrongLength (n : Nat) : String :=
    "expected " ++ toString width ++ " bytes, got " ++ toString n

end Transparent

/-- **The transparent system.** -/
abbrev ProofSystem.transparent : ProofSystem where
  backend := .transparent
  ProvingKey := ProofLogin.ProvingKey
  VerifyingKey := ProofLogin.VerifyingKey
  provingCircuit := ProvingKey.circuit
  verifyingCircuit := VerifyingKey.circuit
  fingerprint := VerifyingKey.fingerprint
  prove := Transparent.prove
  verify := Transparent.verify

end ProofLogin
