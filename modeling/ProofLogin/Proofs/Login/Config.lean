import ProofLogin.Login.Bundle
import ProofLogin.Login.Config
import ProofLogin.Proofs.Policy

/-!
# Proofs/Login/Config — settings, bundles and challenges are read back from their objects

Every member is written, so that the defaults which stand for what a text does not say are never
asked for.
-/

namespace ProofLogin

open Json (Tree)

namespace PolicyBundle

theorem isExact_toJson (b : PolicyBundle) : b.toJson.IsExact := rfl

@[simp] theorem ofJson?_tree (b : PolicyBundle) : ofJson? b.toJson.tree = some b := by
  rw [ofJson?, toJson, Tree.record?_object (by decide) (by rfl)]
  simp

end PolicyBundle

namespace IssuedChallenge

theorem isExact_toJson (c : IssuedChallenge) : c.toJson.IsExact := rfl

@[simp] theorem ofJson?_tree (c : IssuedChallenge) : ofJson? c.toJson.tree = some c := by
  rw [ofJson?, toJson, Tree.record?_object (by decide) (by rfl)]
  simp

end IssuedChallenge

namespace RotationSchedule

theorem isExact_toJson (s : RotationSchedule) : s.toJson.IsExact := rfl

@[simp] theorem ofJson?_tree (s : RotationSchedule) : ofJson? s.toJson.tree = some s := by
  rw [ofJson?, toJson, Tree.record?_object (by decide) (by rfl)]
  simp

end RotationSchedule

theorem ReplayProtection.lookup_names (m : ReplayProtection) :
    names.lookup m.name = some m := by
  cases m <;> rfl

theorem ProofMode.lookup_names (m : ProofMode) : names.lookup m.name = some m := by
  cases m <;> rfl

namespace AuthConfig

theorem isExact_toJson (c : AuthConfig) : c.toJson.IsExact := rfl

/-- **Settings are read back**, those of the policy and of the rotation in them. -/
@[simp] theorem ofJson?_tree (c : AuthConfig) : ofJson? c.toJson.tree = some c := by
  rw [ofJson?, toJson, Tree.record?_object (by decide) (by rfl)]
  simp [Tree.name?_tree c.replay.lookup_names, Tree.name?_tree c.proofMode.lookup_names]

end AuthConfig

end ProofLogin
