import Mathlib.Logic.Basic
import ProofLogin.Proof.Transparent
import ProofLogin.Proofs.Outcome

/-!
# Proofs/Proof/Transparent — the one proof that a key accepts

For public inputs of its circuit a key accepts exactly one octet string (`verify_eq_ok_iff`), and
that is what the key of the same material makes for every witness of the statement
(`prove_eq_ok_iff`).  A key is taken where its circuit is the one that is needed
(`requireCircuit_eq_ok_iff`).
-/

namespace ProofLogin

theorem requireCircuit_eq_ok_iff {needed held : Circuit} :
    requireCircuit needed held = .ok () ↔ held = needed := by
  rw [requireCircuit, Outcome.ite_ok_eq_ok, and_iff_left rfl]

namespace Transparent

theorem length_proofOf (k : KeyMaterial) (p : PublicInputs) : (proofOf k p).length = width := by
  rw [proofOf, List.length_cons, (tag k p).length_toBytes]
  rfl

/-- **A key accepts its own proof of the inputs and nothing else.** -/
theorem verify_eq_ok_iff {k : VerifyingKey} {p : PublicInputs} {proof : Bytes} :
    verify k p proof = .ok () ↔ p.circuit = k.circuit ∧ proof = proofOf k.material p := by
  cases proof with
  | nil => simp [verify, proofOf]
  | cons f mac =>
    simp only [verify, Outcome.ite_error_eq_ok, Outcome.ite_ok_eq_ok, not_not, ne_eq, and_true,
      proofOf, List.cons.injEq]
    constructor
    · rintro ⟨-, hf, hcircuit, hmac⟩
      exact ⟨hcircuit, hf, hmac⟩
    · rintro ⟨hcircuit, rfl, rfl⟩
      exact ⟨length_proofOf k.material p, rfl, hcircuit, rfl⟩

/-- **Only the shape of a proof makes it malformed**: its length and its first octet. -/
theorem exists_verify_eq_malformed_iff {k : VerifyingKey} {p : PublicInputs} {proof : Bytes} :
    (∃ reason, verify k p proof = .error (.malformedProof reason)) ↔
      proof.length ≠ width ∨ proof.head? ≠ some format := by
  cases proof with
  | nil => exact iff_of_true ⟨_, rfl⟩ (.inl (by decide))
  | cons f mac =>
    rw [verify, List.head?_cons, ne_eq (some f), Option.some.injEq]
    split
    case isTrue hlength => exact iff_of_true ⟨_, rfl⟩ (.inl hlength)
    case isFalse hlength =>
      split
      case isTrue hformat => exact iff_of_true ⟨_, rfl⟩ (.inr hformat)
      case isFalse hformat =>
        refine iff_of_false ?_ (not_or.mpr ⟨hlength, hformat⟩)
        rintro ⟨reason, h⟩
        split at h
        · cases h
        · split at h <;> cases h

/-- **A key makes a proof of exactly the statements of its circuit that the witness satisfies**, and
the witness leaves no trace in it. -/
theorem prove_eq_ok_iff {k : ProvingKey} {p : PublicInputs} {w : Witness} {proof : Bytes} :
    prove k p w = .ok proof ↔
      (p.circuit = k.circuit ∧ Circuit.check p w = .ok ()) ∧ proof = proofOf k.material p := by
  rw [prove, Outcome.ite_error_eq_ok, not_not, and_assoc, @eq_comm _ proof]
  refine and_congr_right fun _ => ?_
  cases Circuit.check p w with
  | error u => simp
  | ok => simp

end Transparent

end ProofLogin
