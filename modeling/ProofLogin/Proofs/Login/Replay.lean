import ProofLogin.Proofs.Outcome
import ProofLogin.Login.Replay

/-!
# Proofs/Login/Replay — what a store of used tokens remembers

A store is looked at through its `entries`: an identifier that has none is added
(`insert_eq_ok_iff`), and a cleanup keeps those that have not ended (`mem_entries_cleanup`).
-/

namespace ProofLogin

namespace ReplayStore

/-- The identifiers that a store remembers, with the end of the validity of their tokens. -/
def entries : ReplayStore → List (String × Int64)
  | .memory used => used
  | .disabled => []

variable {s s' : ReplayStore} {jti : String} {expiresAt now : Int64}

theorem contains_iff : s.contains jti = true ↔ ∃ e, (jti, e) ∈ s.entries := by
  cases s with
  | disabled => simp [contains, entries]
  | memory used =>
    rw [contains, List.any_eq_true]
    constructor
    · rintro ⟨⟨jti', e⟩, hmem, h⟩
      obtain rfl := eq_of_beq h
      exact ⟨e, hmem⟩
    · rintro ⟨e, hmem⟩
      exact ⟨(jti, e), hmem, beq_self_eq_true jti⟩

/-- **Nothing is forgotten but what ended before now.** -/
@[simp] theorem mem_entries_cleanup {p : String × Int64} :
    p ∈ (s.cleanup now).entries ↔ p ∈ s.entries ∧ now ≤ p.2 := by
  cases s with
  | disabled => simp [cleanup, entries]
  | memory used => simp [cleanup, entries, List.mem_filter]

/-- The stores that remember. -/
def IsMemory (s : ReplayStore) : Prop := ∃ used, s = .memory used

theorem IsMemory.cleanup (h : s.IsMemory) (now : Int64) : (s.cleanup now).IsMemory := by
  obtain ⟨used, rfl⟩ := h
  exact ⟨_, rfl⟩

theorem isMemory_of_mem_entries {p : String × Int64} (h : p ∈ s.entries) : s.IsMemory := by
  cases s with
  | disabled => cases h
  | memory used => exact ⟨used, rfl⟩

theorem insert_eq_ok_iff (h : s.IsMemory) : s.insert jti expiresAt = .ok s' ↔
    s.contains jti = false ∧ s' = .memory ((jti, expiresAt) :: s.entries) := by
  obtain ⟨used, rfl⟩ := h
  rw [insert, Outcome.ite_error_eq_ok, Bool.not_eq_true, Except.ok.injEq, @eq_comm _ _ s']
  rfl

theorem insert_eq_error (h : s.contains jti = true) :
    s.insert jti expiresAt = .error .alreadyUsed := by
  cases s with
  | disabled => cases h
  | memory used => rw [insert, if_pos h]

end ReplayStore

end ProofLogin
