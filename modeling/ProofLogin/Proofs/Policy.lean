import ProofLogin.Policy
import ProofLogin.Proofs.Fingerprint
import ProofLogin.Proofs.Text.Digits

/-!
# Proofs/Policy — the version of a policy says its four numbers, up to a collision

    year ──'-'── age ──'-'── memory ──'-'── iterations

The text has a hyphen between each two numbers, and one before a negative number as well. It is
readable all the same (`versionText_injective`), so that two policies with the same version are the
same or have two texts of the same digest.

Costs and policies are read back from their objects (`ofJson?_tree`).
-/

namespace ProofLogin

open Json (Tree)

namespace KdfCost

theorem isExact_toJson (c : KdfCost) : c.toJson.IsExact := rfl

@[simp] theorem ofJson?_tree (c : KdfCost) : ofJson? c.toJson.tree = some c := by
  rw [ofJson?, toJson, Tree.record?_object (by decide) (by rfl)]
  simp

end KdfCost

namespace Policy

theorem isExact_toJson (p : Policy) : p.toJson.IsExact := rfl

@[simp] theorem ofJson?_tree (p : Policy) : ofJson? p.toJson.tree = some p := by
  rw [ofJson?, toJson, Tree.record?_object (by decide) (by rfl)]
  simp

/-! ## Versions -/

theorem toList_versionText (p : Policy) : p.versionText.toList
    = (toString p.targetYear.toInt).toList ++ '-' :: ((toString p.limitAge.toInt).toList
      ++ '-' :: (Nat.toDigits 10 p.kdf.memoryKiB.toNat
      ++ '-' :: Nat.toDigits 10 p.kdf.iterations.toNat)) := by
  simp only [versionText, String.toList_append, Nat.toString_eq_repr, Nat.toList_repr,
    List.append_assoc]
  rfl

/-- **The text of a policy says its four numbers.** -/
theorem versionText_injective : Function.Injective versionText := by
  intro p q h
  have htext := congrArg String.toList h
  rw [toList_versionText, toList_versionText] at htext
  obtain ⟨hyear, htext⟩ := Text.toString_append_inj htext
  obtain ⟨hage, htext⟩ := Text.toString_append_inj htext
  obtain ⟨hmemory, htext⟩ := Text.toDigits_append_inj htext
  have hiterations := Text.toDigits_injective htext
  have hkdf : p.kdf = q.kdf := by
    rw [KdfCost.mk.injEq]
    exact ⟨UInt32.toNat_inj.mp hmemory, UInt32.toNat_inj.mp hiterations⟩
  rw [mk.injEq]
  exact ⟨Int32.toInt_inj.mp hyear, Int32.toInt_inj.mp hage, hkdf⟩

/-- **Policies of one version** are the same, or their texts are two of one digest. -/
theorem version_eq_iff {p q : Policy} : p.version = q.version ↔ p = q
    ∨ p.versionText ≠ q.versionText
      ∧ Sha256.hash (Utf8.encode p.versionText) = Sha256.hash (Utf8.encode q.versionText) := by
  have hdigest : p.version = q.version
      ↔ Sha256.hash (Utf8.encode p.versionText) = Sha256.hash (Utf8.encode q.versionText) := by
    refine ⟨fun h => ?_, fun h => ?_⟩
    · exact Bytes32.ext (Hex.encode_injective h)
    · rw [version, h, version]
  rw [hdigest]
  constructor
  · intro h
    by_cases htext : p.versionText = q.versionText
    · exact .inl (versionText_injective htext)
    · exact .inr ⟨htext, h⟩
  · rintro (rfl | ⟨-, h⟩)
    · rfl
    · exact h

theorem version_ne_empty (p : Policy) : p.version ≠ "" :=
  Hex.encode_bytes32_ne_empty _

end Policy

end ProofLogin
