import ProofLogin.Commitment.Field
import ProofLogin.Digest.Sha256
import ProofLogin.Text.Utf8

/-!
# Commitment/Mimc — a digest of field elements

A block cipher of 110 rounds raises its state to the fifth power after adding the key and a constant
of the round. The digest encrypts each element under the digest of the ones before it, and adds both
to the result. The constants are successive digests of a fixed text.
-/

namespace ProofLogin.Mimc

/-- The text that the round constants come from. -/
def seed : String := "identify-sdk-mimc-seed"

/-- The number of rounds. -/
def roundCount : Nat := 110

/-- The elements of `count` successive digests after the one given. -/
def constantsFrom : (count : Nat) → Bytes → List FieldElement
  | 0, _ => []
  | count + 1, bs =>
    let next := (Sha256.hash bs).toBytes
    FieldElement.ofBytes next :: constantsFrom count next

/-- **The constant of each round.** -/
def roundConstants : List FieldElement :=
  constantsFrom roundCount (Sha256.hash (Utf8.encode seed)).toBytes

/-- The fifth power. -/
def pow5 (x : FieldElement) : FieldElement :=
  let x2 := x * x
  x2 * x2 * x

/-- **The block cipher.** -/
def encrypt (key message : FieldElement) : FieldElement :=
  roundConstants.foldl (fun r c => pow5 (r + key + c)) message + key

/-- **The digest of a list of elements.** -/
def hash (inputs : List FieldElement) : FieldElement :=
  inputs.foldl (fun h m => encrypt h m + h + m) (FieldElement.ofNat 0)

/-- The digest of two elements. -/
def hash2 (a b : FieldElement) : FieldElement :=
  hash [a, b]

end ProofLogin.Mimc
