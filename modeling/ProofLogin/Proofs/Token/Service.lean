import ProofLogin.Proofs.Login.Replay
import ProofLogin.Proofs.Token.Validity
import ProofLogin.Token.Service

/-!
# Proofs/Token/Service — which tokens a service accepts, and which it uses up

`validate_eq_ok_iff` is the acceptance, `redeem_eq_ok_iff` the use; to `consume` is to do the one
after the other.
-/

namespace ProofLogin

namespace TokenService

open ReplayStore

variable {s : TokenService} {store store' : ReplayStore} {token vkId : String} {now : Int64}
  {c : Claims}

/-! ## Acceptance -/

theorem validate_eq_ok_iff : s.validate token now vkId = .ok c ↔
    Token.Signs s.keys token c ∧ c.Holds now vkId s.paramsVersion := by
  rw [validate, Outcome.mapError_eq_ok, Token.validateWith_eq_ok_iff]

theorem validate_eq_tokenExpired (h : Token.Signs s.keys token c) (hend : c.expiresAt ≤ now) :
    s.validate token now vkId = .error .tokenExpired := by
  rw [validate, Token.validateWith, Token.parseWith_eq_ok_iff.mpr h]
  change (Token.checkClaims c now vkId s.paramsVersion).mapError LoginError.ofToken = _
  rw [Token.checkClaims, if_pos hend]
  rfl

/-! ## Use -/

/-- **A token is used up exactly when it has an identifier that is not remembered.** -/
theorem redeem_eq_ok_iff (h : store.IsMemory) : redeem store c = .ok store' ↔
    c.jti ≠ "" ∧ store.contains c.jti = false
      ∧ store' = .memory ((c.jti, c.expiresAt) :: store.entries) := by
  rw [redeem, Outcome.ite_error_eq_ok, Outcome.mapError_eq_ok, insert_eq_ok_iff h]

theorem exists_redeem_eq_ok_iff :
    (∃ store', redeem store c = .ok store') ↔ c.jti ≠ "" ∧ store.contains c.jti = false := by
  cases store with
  | memory used =>
    simp only [redeem_eq_ok_iff ⟨used, rfl⟩, exists_and_left, exists_eq, and_true]
  | disabled =>
    simp only [redeem, Outcome.ite_error_eq_ok, Outcome.mapError_eq_ok]
    constructor
    · rintro ⟨store', hjti, -⟩
      exact ⟨hjti, rfl⟩
    · rintro ⟨hjti, -⟩
      exact ⟨.disabled, hjti, rfl⟩

/-- To use a token adds its identifier, and nothing where nothing is remembered. -/
theorem eq_or_eq_cons_of_redeem (h : redeem store c = .ok store') :
    store' = store ∨ store' = .memory ((c.jti, c.expiresAt) :: store.entries) := by
  cases store with
  | memory used => exact .inr ((redeem_eq_ok_iff ⟨used, rfl⟩).mp h).2.2
  | disabled =>
    obtain ⟨-, h⟩ := Outcome.ite_error_eq_ok.mp h
    exact .inl (Except.ok.inj (Outcome.mapError_eq_ok.mp h)).symm

/-- What is remembered stays remembered. -/
theorem mem_entries_of_redeem (h : redeem store c = .ok store') {p : String × Int64}
    (hp : p ∈ store.entries) : p ∈ store'.entries := by
  obtain ⟨-, -, rfl⟩ := (redeem_eq_ok_iff (isMemory_of_mem_entries hp)).mp h
  exact List.mem_cons_of_mem _ hp

theorem redeem_eq_replayDetected (hjti : c.jti ≠ "") (h : store.contains c.jti = true) :
    redeem store c = .error .replayDetected := by
  rw [redeem, if_neg hjti, insert_eq_error h]
  rfl

theorem consume_eq_ok_iff : s.consume store token now vkId = .ok (c, store') ↔
    s.validate token now vkId = .ok c ∧ redeem store c = .ok store' := by
  rw [consume, Outcome.bind_eq_ok]
  constructor
  · rintro ⟨c', hvalidate, h⟩
    obtain ⟨store'', hredeem, h⟩ := Outcome.bind_eq_ok.mp h
    cases Outcome.pure_eq_ok.mp h
    exact ⟨hvalidate, hredeem⟩
  · rintro ⟨hvalidate, hredeem⟩
    exact ⟨c, hvalidate, Outcome.bind_eq_ok.mpr ⟨store', hredeem, rfl⟩⟩

end TokenService

/-! ## A service with a token -/

/-- A service with one key, under the default policy. -/
def TokenService.sample : TokenService :=
  ⟨.single "k1" ⟨List.replicate 16 0, by decide⟩, Policy.default.version, 60⟩

/-- Claims for a user that hold for a hundred seconds. -/
def Claims.sample (vkId : String) : Claims :=
  { Claims.of "alice" 7 100 with vkId, jti := "j1", paramsVersion := Policy.default.version }

/-- The token that carries them. -/
def Token.sample (vkId : String) : String :=
  Token.ofPayload ⟨List.replicate 16 0, by decide⟩ (Claims.sample vkId).payload

theorem Token.signs_sample (vkId : String) :
    Token.Signs TokenService.sample.keys (Token.sample vkId) (.sample vkId) :=
  Token.signs_ofPayload rfl

end ProofLogin
