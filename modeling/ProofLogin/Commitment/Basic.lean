import ProofLogin.Commitment.Mimc
import ProofLogin.Commitment.Salt
import ProofLogin.Policy

/-!
# Commitment/Basic — from a secret to its commitment

A secret is derived to a field element by the memory-hard digest, and the commitment is the digest
of the derived secret and the salt. `bind` ties a commitment to a challenge.
-/

namespace ProofLogin

/-- **A commitment with the salt it was made with.** -/
structure Commitment where
  value : FieldElement
  salt : Salt
  deriving DecidableEq

namespace Commitment

/-- The memory-hard digest of a secret, after a look at its cost. -/
def kdf (secret salt : Bytes) (cost : KdfCost) : Except CommitmentError Bytes32 :=
  match cost.validate with
  | .error e => .error (.invalidPolicy e)
  | .ok () => match Argon2id.hash cost.toArgon2id secret salt with
    | .error fault => .error (.kdf fault.message)
    | .ok d => .ok d

/-- The derived secret under a salt. -/
def deriveWith (secret : Bytes) (salt : Salt) (policy : Policy) :
    Except CommitmentError FieldElement :=
  (kdf secret salt.octets policy.kdf).map fun d => FieldElement.ofBytes d.toBytes

/-- **The derived secret** under the salt that a text spells. -/
def derive (secret : Bytes) (salt : String) (policy : Policy) :
    Except CommitmentError FieldElement := do
  deriveWith secret (← Salt.ofHex salt) policy

/-- The commitment of a derived secret. -/
def ofDerived (derived : FieldElement) (salt : Salt) : FieldElement :=
  Mimc.hash2 derived salt.toField

/-- The commitment of a secret under a salt. -/
def commitWith (secret : Bytes) (salt : Salt) (policy : Policy) :
    Except CommitmentError FieldElement :=
  (deriveWith secret salt policy).map fun derived => ofDerived derived salt

/-- **The commitment of a secret** under the salt that a text spells. -/
def commit (secret : Bytes) (salt : String) (policy : Policy) :
    Except CommitmentError FieldElement := do
  commitWith secret (← Salt.ofHex salt) policy

/-- **What ties a commitment to a challenge.** -/
def bind (commitment : FieldElement) (challenge : UInt64) : FieldElement :=
  Mimc.hash2 commitment (FieldElement.ofNat challenge.toNat)

/-- A new commitment, with the salt of a draw. -/
def create (secret : Bytes) (policy : Policy) (draw : Bytes32) :
    Except CommitmentError Commitment :=
  let salt := Salt.ofDraw draw
  (commitWith secret salt policy).map fun value => ⟨value, salt⟩

/-- The members of a commitment. -/
def memberNames : List String := ["value", "salt"]

/-- A commitment as a JSON value. -/
def toJson (c : Commitment) : Json.Value :=
  .object [("value", c.value.toJson), ("salt", c.salt.toJson)]

/-- A commitment from a JSON value. -/
def ofJson? (t : Json.Tree) : Option Commitment := do
  match ← t.record? memberNames with
  | [value, salt] =>
    return ⟨← Record.required? FieldElement.ofJson? value, ← Record.required? Salt.ofJson? salt⟩
  | _ => none

end Commitment

end ProofLogin
