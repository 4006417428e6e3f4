import ProofLogin.Proof.Circuit

/-!
# Proof/Envelope — how a proof travels

An envelope holds a proof with what the verifier needs to know about it. A login may carry the
commitment and the salt it was made for. Empty texts say nothing.
-/

namespace ProofLogin

/-- **A proof on its way.** -/
structure Envelope where
  proof : Bytes
  proofVersion : String
  vkId : String
  paramsVersion : String
  commitment : Option String
  salt : Option String
  deriving DecidableEq

namespace Envelope

/-- The circuit that an envelope claims to be for. -/
def circuit? (e : Envelope) : Option Circuit :=
  Circuit.ofProofVersion? e.proofVersion

/-- The members of an envelope. -/
def memberNames : List String :=
  ["proof", "proof_version", "vk_id", "params_version", "commitment", "salt"]

/-- An envelope as a JSON value; what it does not carry is left out. -/
def toJson (e : Envelope) : Json.Value :=
  .objectOf [
    ("proof", some (.text (Hex.encode e.proof))),
    ("proof_version", some (.text e.proofVersion)),
    ("vk_id", some (.text e.vkId)),
    ("params_version", some (.text e.paramsVersion)),
    ("commitment", e.commitment.map .text),
    ("salt", e.salt.map .text)]

/-- The octets of a proof from a JSON value. -/
def proofOfJson? (t : Json.Tree) : Option Bytes := do
  (Hex.decode (← t.text?)).toOption

/-- An envelope from a JSON value. -/
def ofJson? (t : Json.Tree) : Option Envelope := do
  match ← t.record? memberNames with
  | [proof, proofVersion, vkId, paramsVersion, commitment, salt] =>
    return {
      proof := ← Record.required? proofOfJson? proof
      proofVersion := ← Record.required? Json.Tree.text? proofVersion
      vkId := ← Record.required? Json.Tree.text? vkId
      paramsVersion := ← Record.required? Json.Tree.text? paramsVersion
      commitment := ← Record.withDefault? none (Json.Tree.optional? Json.Tree.text?) commitment
      salt := ← Record.withDefault? none (Json.Tree.optional? Json.Tree.text?) salt }
  | _ => none

end Envelope

end ProofLogin
