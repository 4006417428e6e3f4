import ProofLogin.Proof.Envelope
import ProofLogin.Proofs.Encoding.Hex
import ProofLogin.Proofs.Json.Record

/-!
# Proofs/Proof/Envelope — an envelope comes back as it was sent
-/

namespace ProofLogin.Envelope

open Json (Tree)

theorem isExact_toJson (e : Envelope) : e.toJson.IsExact := by
  rw [toJson]
  cases e.commitment <;> cases e.salt <;> rfl

@[simp] theorem proofOfJson?_tree (bs : Bytes) :
    proofOfJson? (Json.Value.tree (.text (Hex.encode bs))) = some bs := by
  rw [proofOfJson?, Tree.text?_tree, Option.bind_eq_bind, Option.bind_some, Hex.decode_encode]
  rfl

/-- An envelope is read back from its object, whatever of commitment and salt it carries. -/
theorem ofJson?_tree (e : Envelope) : ofJson? e.toJson.tree = some e := by
  rw [ofJson?, toJson, Tree.record?_objectOf (by decide) (by rfl)]
  simp [Function.comp_def]

/-- **An envelope is read back from its text.** -/
theorem ofText?_render (e : Envelope) :
    (Tree.ofText? e.toJson.render).bind ofJson? = some e := by
  rw [Tree.ofText?_render e.isExact_toJson, Option.bind_some, ofJson?_tree]

end ProofLogin.Envelope
