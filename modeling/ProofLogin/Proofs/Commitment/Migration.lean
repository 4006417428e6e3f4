import ProofLogin.Commitment.Migration
import ProofLogin.Proofs.Commitment.Field
import ProofLogin.Proofs.Fingerprint
import ProofLogin.Proofs.Json.Normal
import ProofLogin.Proofs.Policy

/-!
# Proofs/Commitment/Migration — commitments and migrations are read back from their objects

Most of them are records of what is read back already.  An entry says `null` for a commitment that
is not stored.  A migrated user is read with all that its object holds, as far as there is `room`
for it (`MigratedUser.ofJson?_tree`): by itself or as an item of a report.
-/

namespace ProofLogin

open Json (Tree Value)

namespace Commitment

theorem isExact_toJson (c : Commitment) : c.toJson.IsExact := rfl

@[simp] theorem ofJson?_tree (c : Commitment) : ofJson? c.toJson.tree = some c := by
  rw [ofJson?, toJson, Tree.record?_object (by decide) (by rfl)]
  simp

end Commitment

namespace MigrationCosts

theorem isExact_toJson (c : MigrationCosts) : c.toJson.IsExact := rfl

@[simp] theorem ofJson?_tree (c : MigrationCosts) : ofJson? c.toJson.tree = some c := by
  rw [ofJson?, toJson, Tree.record?_object (by decide) (by rfl)]
  simp

end MigrationCosts

namespace MigrationOutcome

theorem isExact_toJson (o : MigrationOutcome) : o.toJson.IsExact := rfl

@[simp] theorem ofJson?_tree (o : MigrationOutcome) : ofJson? o.toJson.tree = some o := by
  rw [ofJson?, toJson, members, Tree.record?_object (by decide) (by rfl)]
  simp

end MigrationOutcome

namespace MigrationEntry

theorem isExact_toJson (e : MigrationEntry) : e.toJson.IsExact := by
  rw [toJson]
  cases e.oldCommitment <;> rfl

@[simp] theorem ofJson?_tree (e : MigrationEntry) : ofJson? e.toJson.tree = some e := by
  have hold : Tree.optional? Tree.text? (Value.ofOption .text e.oldCommitment).tree
      = some e.oldCommitment :=
    Tree.optional?_ofOption fun s _ => ⟨(fun h => nomatch h), Tree.text?_tree s⟩
  rw [ofJson?, toJson, Tree.record?_object (by decide) (by rfl)]
  simp [hold]

end MigrationEntry

namespace MigratedUser

theorem isExact_toJson (u : MigratedUser) : u.toJson.IsExact := rfl

theorem exists_ofTree? (room : Nat) (u : MigratedUser) :
    ∃ v, Value.ofTree? (room + 1) u.toJson.tree = some v := by
  refine Value.exists_ofTree?_object ?_
  simp [MigrationOutcome.members, FieldElement.toJson, Value.ofTree?_text]

/-- **A user is read back** wherever there is room for one object. -/
@[simp] theorem ofJson?_tree (room : Nat) (u : MigratedUser) :
    ofJson? (room + 1) u.toJson.tree = some u := by
  obtain ⟨v, hv⟩ := u.exists_ofTree? room
  have hrecord : u.toJson.tree.record? ["user_id", "old_commitment", "new_commitment"]
      = some [some (Value.text u.userId).tree, some u.outcome.oldCommitment.toJson.tree,
        some u.outcome.newCommitment.toJson.tree] := Tree.record?_object (by decide) rfl
  rw [toJson, Value.tree] at hv hrecord ⊢
  rw [Tree.record?] at hrecord
  rw [ofJson?]
  simp [hv, hrecord]

end MigratedUser

namespace MigrationFailure

theorem isExact_toJson (f : MigrationFailure) : f.toJson.IsExact := rfl

@[simp] theorem ofJson?_tree (f : MigrationFailure) : ofJson? f.toJson.tree = some f := by
  rw [ofJson?, toJson, Tree.record?_object (by decide) (by rfl)]
  simp

end MigrationFailure

namespace MigrationReport

theorem isExact_toJson (r : MigrationReport) : r.toJson.IsExact := by
  have hsuccessful : Value.IsExact (.array (r.successful.map MigratedUser.toJson)) := by
    refine Value.isExact_array_iff.mpr fun v hv => ?_
    obtain ⟨u, -, rfl⟩ := List.mem_map.mp hv
    exact u.isExact_toJson
  have hfailed : Value.IsExact (.array (r.failed.map MigrationFailure.toJson)) := by
    refine Value.isExact_array_iff.mpr fun v hv => ?_
    obtain ⟨f, -, rfl⟩ := List.mem_map.mp hv
    exact f.isExact_toJson
  refine Value.isExact_object_iff.mpr fun m hm => ?_
  obtain rfl | rfl : m = _ ∨ m = _ := by simpa [toJson] using hm
  · exact hsuccessful
  · exact hfailed

/-- **A report is read back**, user by user. -/
@[simp] theorem ofJson?_tree (r : MigrationReport) : ofJson? r.toJson.tree = some r := by
  have hsuccessful : Tree.list? (MigratedUser.ofJson? (Value.deepest - 2))
      (Value.array (r.successful.map MigratedUser.toJson)).tree = some r.successful :=
    Tree.list?_tree fun u _ => u.ofJson?_tree (Value.deepest - 3)
  have hfailed : Tree.list? MigrationFailure.ofJson?
      (Value.array (r.failed.map MigrationFailure.toJson)).tree = some r.failed :=
    Tree.list?_tree fun f _ => f.ofJson?_tree
  rw [ofJson?, toJson, Tree.record?_object (by decide) (by rfl)]
  simp [hsuccessful, hfailed]

end MigrationReport

end ProofLogin
