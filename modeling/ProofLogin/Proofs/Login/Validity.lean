import Mathlib.Tactic.SplitIfs
import ProofLogin.Login.Config
import ProofLogin.Proofs.Token.Issue
import ProofLogin.Proofs.Token.Service

/-!
# Proofs/Login/Validity — settings that are valid can be deployed, up to a time to live of 63 bits

The rules of validity are looked at one after the other, those of the policy before the others
(`validate_eq_checkRules`); the first that is broken is named.  A token service has a rule of its
own, that its time to live has 63 bits.  Valid settings that keep it too have a service for every
set with keys, and the service has a challenge for every user at every time; those that do not keep
it are valid all the same (`deployable`).
-/

namespace ProofLogin

/-! ## The first of a list -/

/-- **The first item of a list that has a property.** -/
def IsFirst {α : Type*} (P : α → Prop) (as : List α) (a : α) : Prop :=
  ∃ before after, as = before ++ a :: after ∧ P a ∧ ∀ b ∈ before, ¬P b

section IsFirst

variable {α : Type*} {P : α → Prop} {a b : α} {as : List α}

theorem isFirst_cons : IsFirst P (b :: as) a ↔ P b ∧ a = b ∨ ¬P b ∧ IsFirst P as a := by
  constructor
  · rintro ⟨before, after, h, ha, hbefore⟩
    cases before with
    | nil =>
      obtain ⟨rfl, -⟩ := List.cons.inj h
      exact .inl ⟨ha, rfl⟩
    | cons c before =>
      obtain ⟨rfl, hrest⟩ := List.cons.inj h
      exact .inr ⟨hbefore b List.mem_cons_self, before, after, hrest, ha,
        fun c hc => hbefore c (List.mem_cons_of_mem b hc)⟩
  · rintro (⟨hb, rfl⟩ | ⟨hb, before, after, rfl, ha, hbefore⟩)
    · exact ⟨[], as, rfl, hb, fun _ h => nomatch h⟩
    · exact ⟨b :: before, after, rfl, ha, List.forall_mem_cons.mpr ⟨hb, hbefore⟩⟩

theorem IsFirst.mem (h : IsFirst P as a) : a ∈ as := by
  obtain ⟨before, after, rfl, -⟩ := h
  exact List.mem_append_right before List.mem_cons_self

theorem IsFirst.prop (h : IsFirst P as a) : P a := by
  obtain ⟨before, after, -, ha, -⟩ := h
  exact ha

theorem exists_isFirst_nil_and {Q : α → Prop} : (∃ a, IsFirst P [] a ∧ Q a) ↔ False :=
  iff_of_false (fun ⟨_, h, _⟩ => nomatch h.mem) id

theorem exists_isFirst_cons_and {Q : α → Prop} :
    (∃ a, IsFirst P (b :: as) a ∧ Q a) ↔ P b ∧ Q b ∨ ¬P b ∧ ∃ a, IsFirst P as a ∧ Q a := by
  simp only [isFirst_cons]
  constructor
  · rintro ⟨a, ⟨hb, rfl⟩ | ⟨hb, ha⟩, hQ⟩
    · exact .inl ⟨hb, hQ⟩
    · exact .inr ⟨hb, a, ha, hQ⟩
  · rintro (⟨hb, hQ⟩ | ⟨hb, a, ha, hQ⟩)
    · exact ⟨b, .inl ⟨hb, rfl⟩, hQ⟩
    · exact ⟨a, .inr ⟨hb, ha⟩, hQ⟩

end IsFirst

namespace AuthConfig

variable {c c' : AuthConfig} {lookup : String → Option String} {e : LoginError}
  {rs : List ValidityRule}

/-! ## Validity -/

/-- **A rule that the settings of a deployment keep**, and the words for settings that break it. -/
structure ValidityRule where
  Broken : AuthConfig → Prop
  [decidable : DecidablePred Broken]
  words : AuthConfig → String

attribute [instance] ValidityRule.decidable

/-- **The rules**, in the order in which they are looked at. -/
def validityRules : List ValidityRule := [
  { Broken c := c.policy.limitAge < 0
    words c := "invalid configuration: limit_age must be non-negative, got "
      ++ toString c.policy.limitAge.toInt },
  { Broken c := c.policy.targetYear ≤ 0
    words c := "invalid configuration: target_year must be positive, got "
      ++ toString c.policy.targetYear.toInt },
  { Broken c := c.policy.kdf.iterations = 0
    words _ := "invalid configuration: argon_iterations must be at least 1" },
  { Broken c := c.policy.kdf.memoryKiB < 32
    words c := "invalid configuration: argon_memory must be at least 32 KiB, got "
      ++ toString c.policy.kdf.memoryKiB.toNat },
  { Broken c := c.challengeTtl = 0
    words _ := "challenge_ttl_secs must be positive" },
  { Broken c := c.replayCleanup = 0
    words _ := "replay_cleanup_interval_secs must be positive" },
  { Broken c := c.rotation.checkSeconds = 0
    words _ := "rotation.check_interval_secs must be positive" },
  { Broken c := 315360000 < c.rotation.graceSeconds.toNat
    words _ := "rotation.grace_period_secs exceeds 315360000" }]

/-- Rules are looked at one after the other, up to the first that is broken. -/
def checkRules (c : AuthConfig) : List ValidityRule → Except LoginError Unit
  | [] => .ok ()
  | r :: rs => if r.Broken c then .error (.invalidConfig (r.words c)) else checkRules c rs

theorem validate_eq_checkRules : c.validate = checkRules c validityRules := by
  have hmemory : KdfCost.leastMemoryKiB = 32 := rfl
  have hgrace : longestGrace = 315360000 := rfl
  simp only [validate, Policy.validate, KdfCost.validate, validityRules, checkRules, hmemory,
    hgrace]
  split_ifs <;> rfl

theorem checkRules_eq_error_iff : checkRules c rs = .error e ↔
    ∃ r, IsFirst (ValidityRule.Broken · c) rs r ∧ .invalidConfig (r.words c) = e := by
  induction rs with
  | nil => exact iff_of_false nofun exists_isFirst_nil_and.mp
  | cons r rs ih =>
    rw [checkRules, exists_isFirst_cons_and, ← ih]
    by_cases hbroken : r.Broken c <;> simp [hbroken]

theorem checkRules_eq_ok_iff : checkRules c rs = .ok () ↔ ∀ r ∈ rs, ¬r.Broken c := by
  induction rs with
  | nil => simp [checkRules]
  | cons r rs ih => rw [checkRules, Outcome.ite_error_eq_ok, ih, List.forall_mem_cons]

theorem validate_eq_ok_iff : c.validate = .ok () ↔ ∀ r ∈ validityRules, ¬r.Broken c := by
  rw [validate_eq_checkRules, checkRules_eq_ok_iff]

/-- Valid settings have a time to live. -/
theorem toNat_challengeTtl_pos (h : c.validate = .ok ()) : 0 < c.challengeTtl.toNat := by
  have hrules := validate_eq_ok_iff.mp h
  simp only [validityRules, List.forall_mem_cons] at hrules
  obtain ⟨-, -, -, -, httl, -⟩ := hrules
  exact Nat.pos_of_ne_zero fun h0 => httl (UInt64.toNat_inj.mp h0)

/-- Settings with an environment over them are valid. -/
theorem validate_of_overlay (h : overlay c lookup = .ok c') : c'.validate = .ok () := by
  obtain ⟨c'', -, h⟩ := Outcome.bind_eq_ok.mp h
  obtain ⟨_, hvalid, h⟩ := Outcome.bind_eq_ok.mp h
  obtain rfl := Outcome.pure_eq_ok.mp h
  exact hvalid

/-! ## Deployment -/

/-- **The token service of valid settings**: there is one exactly for a time to live of 63 bits. -/
theorem tokenService_eq {keys : KeySet} (h : c.validate = .ok ()) (hne : keys.isEmpty = false) :
    c.tokenService keys = if c.challengeTtl.toNat < 0x8000000000000000 then
        .ok ⟨keys, c.policy.version, Int64.ofNat c.challengeTtl.toNat⟩
      else .error (.invalidConfig ("invalid challenge ttl " ++ toString c.challengeTtl.toNat)) := by
  rw [tokenService, TokenService.of, if_neg (by simp [hne])]
  simp only [toNat_challengeTtl_pos h, true_and]

/-- **Valid settings can be deployed, up to a time to live of 63 bits.**  Settings with an
environment over them are valid.  Valid settings have a service for every set with keys, whatever
has been put in and taken out, if their time to live has 63 bits, and otherwise the error says that
it is none.  The service has the policy of the settings, and a challenge for every user, every key
and every draw, which ends after it begins. -/
theorem deployable (c : AuthConfig) :
    (∀ base lookup, overlay base lookup = .ok c → c.validate = .ok ())
      ∧ ∀ keys : KeySet, c.validate = .ok () → keys.Built → keys.isEmpty = false →
        (c.challengeTtl.toNat ≤ 0x7FFFFFFFFFFFFFFF →
          ∃ s, c.tokenService keys = .ok s ∧ s.paramsVersion = c.policy.version
            ∧ ∀ userId vkId now draw, userId ≠ "" → 0 ≤ now → now < Int64.maxValue →
              ∃ issued, s.issueFor userId vkId now draw = .ok issued ∧ now < issued.expiresAt)
        ∧ (0x7FFFFFFFFFFFFFFF < c.challengeTtl.toNat →
          c.tokenService keys = .error
            (.invalidConfig ("invalid challenge ttl " ++ toString c.challengeTtl.toNat))) := by
  refine ⟨fun base lookup => validate_of_overlay, fun keys hvalid hkeys hne => ⟨fun httl => ?_,
    fun httl => ?_⟩⟩
  · have hservice := tokenService_eq hvalid hne
    rw [if_pos (Nat.lt_succ_of_le httl)] at hservice
    exact ⟨_, hservice, rfl, fun userId vkId now draw huser hstart hend =>
      TokenService.exists_issueFor hservice hkeys huser vkId hstart hend draw⟩
  · rw [tokenService_eq hvalid hne, if_neg (Nat.not_lt.mpr httl)]

/-- Settings with the longest time to live. -/
theorem deployable_sample :
    let c := { default with challengeTtl := 0x7FFFFFFFFFFFFFFF }
    let keys := TokenService.sample.keys
    ∃ s, c.tokenService keys = .ok s ∧ s.paramsVersion = c.policy.version
      ∧ ∃ issued, s.issueFor "alice" "" 0 ⟨1, 2, 3⟩ = .ok issued ∧ 0 < issued.expiresAt := by
  intro c keys
  have hvalid : c.validate = .ok () := rfl
  have hkeys : keys.Built := .insertDefault .empty _ _
  obtain ⟨s, hs, hversion, hissue⟩ := ((deployable c).2 keys hvalid hkeys rfl).1 (by decide)
  exact ⟨s, hs, hversion, hissue "alice" "" 0 ⟨1, 2, 3⟩ (by decide) (by decide) (by decide)⟩

/-- A time to live of 64 bits is valid, and there is no service with it. -/
theorem long_ttl_not_deployable :
    let c := { default with challengeTtl := 0x8000000000000000 }
    c.validate = .ok () ∧ TokenService.sample.keys.isEmpty = false
      ∧ c.tokenService TokenService.sample.keys
        = .error (.invalidConfig "invalid challenge ttl 9223372036854775808") :=
  ⟨rfl, rfl, rfl⟩

end AuthConfig

end ProofLogin
