import ProofLogin.Keys.Registry
import ProofLogin.Proofs.Fingerprint
import ProofLogin.Proofs.Instant

/-!
# Proofs/Keys/Event — keys and what happens to them are read back from their objects

Their moments have to be plain ones (`KeyVersion.IsPlain`, `RotationEvent.IsPlain`); a moment that
is missing is written as `null` in a version, and left out of an event.
-/

namespace ProofLogin

open Json (Tree Value)

namespace KeyVersion

/-- **The moments of a version are plain.** -/
structure IsPlain (v : KeyVersion) : Prop where
  createdAt : v.createdAt.IsPlain
  expiresAt : ∀ e, v.expiresAt = some e → e.IsPlain

theorem isExact_toJson (v : KeyVersion) : v.toJson.IsExact := by
  rw [toJson]
  cases v.expiresAt <;> rfl

/-- **A version is read back**, with and without an expiry. -/
theorem ofJson?_tree {v : KeyVersion} (h : v.IsPlain) : ofJson? v.toJson.tree = some v := by
  have hexpires : Tree.optional? Instant.ofJson? (Value.ofOption Instant.toJson v.expiresAt).tree
      = some v.expiresAt :=
    Tree.optional?_ofOption fun e he =>
      ⟨(fun h => nomatch h), Instant.ofJson?_tree (h.expiresAt e he)⟩
  rw [ofJson?, toJson, Tree.record?_object (by decide) (by rfl)]
  simp [Instant.ofJson?_tree h.createdAt, hexpires]

end KeyVersion

theorem RotationKind.lookup_names (k : RotationKind) : names.lookup k.name = some k := by
  cases k <;> rfl

namespace RotationEvent

/-- **The moment of an event is plain**, if it has one. -/
def IsPlain (e : RotationEvent) : Prop :=
  ∀ t, e.expiresAt = some t → t.IsPlain

theorem isExact_toJson (e : RotationEvent) : e.toJson.IsExact := by
  rw [toJson]
  cases e.previous <;> cases e.expiresAt <;> rfl

/-- **An event is read back**, whatever it leaves out. -/
theorem ofJson?_tree {e : RotationEvent} (h : e.IsPlain) : ofJson? e.toJson.tree = some e := by
  have hprevious : Record.withDefault? none (Tree.optional? Fingerprint.ofJson?)
      (e.previous.map fun f => f.toJson.tree) = some e.previous :=
    Tree.withDefault?_optional?_map fun f _ => ⟨(fun h => nomatch h), f.ofJson?_tree⟩
  have hexpires : Record.withDefault? none (Tree.optional? Instant.ofJson?)
      (e.expiresAt.map fun t => t.toJson.tree) = some e.expiresAt :=
    Tree.withDefault?_optional?_map fun t ht =>
      ⟨(fun h => nomatch h), Instant.ofJson?_tree (h t ht)⟩
  rw [ofJson?, toJson, Tree.record?_objectOf (by decide) (by rfl)]
  simp [Tree.name?_tree e.kind.lookup_names, Function.comp_def, hprevious, hexpires]

end RotationEvent

end ProofLogin
