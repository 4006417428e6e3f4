import ProofLogin.Proofs.Token.Service

/-!
# Proofs/Login/Interleaving — one token submitted by many, step by step

    clock   ──tick──▸ ──────────▸ expiresAt ──▸ ──cleanup──▸
    first   ──validate──▸ ──redeem──▸
    second  ──validate──▸ ────────────────────────────────▸ ──redeem──▸

Between whole calls a token passes once.  Taken apart into its two steps, a submission asks for the
time only when it validates, and the cleanup forgets an identifier by the time alone: a submission
that is stalled from before the end of the token until after a cleanup passes a second time
(`two_passed_sample`).  `two_le_passed_iff` says that there is no other way.
-/

namespace ProofLogin.Interleaving

/-! ## Steps -/

/-- **One step.**  A submission is known by a number; the clock never goes back. -/
inductive Step where
  | tick (now : Int64)
  | validate (submission : Nat) (vkId : String)
  | redeem (submission : Nat)
  | cleanup

/-- What the steps share, and for each submission the claims that it has validated and not yet
redeemed.  `passed` counts the submissions that have redeemed the token. -/
structure State where
  clock : Int64
  store : ReplayStore
  pending : Nat → Option Claims
  passed : Nat

namespace State

/-- Before the first step. -/
def start (clock : Int64) (used : List (String × Int64)) : State :=
  ⟨clock, .memory used, fun _ => none, 0⟩

/-- The claims that a submission holds from now on. -/
def hold (st : State) (submission : Nat) (c? : Option Claims) : State :=
  { st with pending := fun n => if n = submission then c? else st.pending n }

variable (s : TokenService) (token : String)

/-- **The state after a step** of submissions of the token to the service. -/
def step (st : State) : Step → State
  | .tick now => { st with clock := if st.clock ≤ now then now else st.clock }
  | .validate submission vkId => st.hold submission (s.validate token st.clock vkId).toOption
  | .redeem submission => match st.pending submission with
    | none => st
    | some c => match TokenService.redeem st.store c with
      | .error _ => st.hold submission none
      | .ok store => { st.hold submission none with store, passed := st.passed + 1 }
  | .cleanup => { st with store := st.store.cleanup st.clock }

/-- The state after steps. -/
def run (st : State) (steps : List Step) : State :=
  steps.foldl (step s token) st

/-- **The submission passes now.** -/
def Passes (st : State) (submission : Nat) (c : Claims) : Prop :=
  st.pending submission = some c ∧ c.jti ≠ "" ∧ st.store.contains c.jti = false

variable {s token} {st : State} {c : Claims}

theorem run_append (st : State) (steps steps' : List Step) :
    st.run s token (steps ++ steps') = (st.run s token steps).run s token steps' :=
  List.foldl_append

theorem run_cons (st : State) (x : Step) (steps : List Step) :
    st.run s token (x :: steps) = (st.step s token x).run s token steps := rfl

/-- **What a step does to the store and to the count**: nothing, or it is a cleanup, or a submission
passes. -/
theorem step_cases (s : TokenService) (token : String) (st : State) (x : Step) :
    ((st.step s token x).store = st.store ∧ (st.step s token x).passed = st.passed)
      ∨ (x = .cleanup ∧ (st.step s token x).store = st.store.cleanup st.clock
        ∧ (st.step s token x).passed = st.passed)
      ∨ ∃ submission c, x = .redeem submission ∧ st.Passes submission c
        ∧ TokenService.redeem st.store c = .ok (st.step s token x).store
        ∧ (st.step s token x).passed = st.passed + 1 := by
  cases x with
  | tick | validate => exact .inl ⟨rfl, rfl⟩
  | cleanup => exact .inr (.inl ⟨rfl, rfl, rfl⟩)
  | redeem submission =>
    rw [step]
    split
    case h_1 => exact .inl ⟨rfl, rfl⟩
    case h_2 c hpending =>
      split
      case h_1 => exact .inl ⟨rfl, rfl⟩
      case h_2 store hredeem =>
        exact .inr (.inr ⟨submission, c, rfl,
          ⟨hpending, TokenService.exists_redeem_eq_ok_iff.mp ⟨store, hredeem⟩⟩, hredeem, rfl⟩)

theorem passed_le_step (s : TokenService) (token : String) (st : State) (x : Step) :
    st.passed ≤ (st.step s token x).passed := by
  obtain ⟨-, h⟩ | ⟨-, -, h⟩ | ⟨_, _, -, -, -, h⟩ := st.step_cases s token x <;>
    omega

theorem clock_le_step (s : TokenService) (token : String) (st : State) (x : Step) :
    st.clock ≤ (st.step s token x).clock := by
  cases x with
  | tick now =>
    rw [step]
    by_cases h : st.clock ≤ now <;> simp [h]
  | validate | cleanup => exact Int64.le_refl _
  | redeem submission =>
    rw [step]
    split
    · exact Int64.le_refl _
    · split <;> exact Int64.le_refl _

theorem pending_of_hold_none {submission n : Nat}
    (h : (st.hold submission none).pending n = some c) : st.pending n = some c := by
  simp only [hold] at h
  split at h
  · cases h
  · exact h

/-- **What a submission holds after a step** it held before, or it has just validated it. -/
theorem pending_step {n : Nat} {x : Step} (h : (st.step s token x).pending n = some c) :
    st.pending n = some c ∨ ∃ vkId, s.validate token st.clock vkId = .ok c := by
  cases x with
  | tick | cleanup => exact .inl h
  | validate submission vkId =>
    simp only [step, hold] at h
    split at h
    · exact .inr ⟨vkId, by cases hv : s.validate token st.clock vkId <;> simp_all [Except.toOption]⟩
    · exact .inl h
  | redeem submission =>
    rw [step] at h
    split at h
    · exact .inl h
    · split at h <;> exact .inl (pending_of_hold_none h)

/-! ## Runs -/

theorem passed_le_run (s : TokenService) (token : String) (st : State) (steps : List Step) :
    st.passed ≤ (st.run s token steps).passed := by
  induction steps generalizing st with
  | nil => exact Nat.le_refl _
  | cons x steps ih => exact Nat.le_trans (st.passed_le_step s token x) (ih _)

/-- **Every submission holds claims of the token.** -/
def Sound (s : TokenService) (token : String) (st : State) : Prop :=
  ∀ n c, st.pending n = some c → Token.Signs s.keys token c

theorem Sound.run (h : st.Sound s token) (steps : List Step) :
    (st.run s token steps).Sound s token := by
  induction steps generalizing st with
  | nil => exact h
  | cons x steps ih =>
    refine ih fun n c hn => ?_
    obtain hn | ⟨vkId, hvalidate⟩ := pending_step hn
    · exact h n c hn
    · exact (TokenService.validate_eq_ok_iff.mp hvalidate).1

/-- What is held when the token has ended was held when it ended: nothing is validated any more. -/
theorem pending_of_ended (hend : c.expiresAt ≤ st.clock) {n : Nat} {steps : List Step}
    (h : (st.run s token steps).pending n = some c) : st.pending n = some c := by
  induction steps generalizing st with
  | nil => exact h
  | cons x steps ih =>
    obtain h | ⟨vkId, hvalidate⟩ := pending_step
      (ih (Int64.le_trans hend (st.clock_le_step s token x)) h)
    · exact h
    · have hnow := (TokenService.validate_eq_ok_iff.mp hvalidate).2.now_lt
      exact absurd hend (Int64.not_le.mpr hnow)

/-- **When more have passed, there was a first one.** -/
theorem exists_first_pass {steps : List Step} (h : st.passed < (st.run s token steps).passed) :
    ∃ before n after c, steps = before ++ .redeem n :: after
      ∧ (st.run s token before).Passes n c ∧ (st.run s token before).passed = st.passed := by
  induction steps generalizing st with
  | nil => exact absurd h (Nat.lt_irrefl _)
  | cons x steps ih =>
    by_cases hpassed : (st.step s token x).passed = st.passed
    · obtain ⟨before, n, after, c, rfl, hpass, hcount⟩ :=
        ih (show (st.step s token x).passed < _ from hpassed ▸ h)
      exact ⟨x :: before, n, after, c, rfl, hpass, hcount.trans hpassed⟩
    · obtain ⟨-, h⟩ | ⟨-, -, h⟩ | ⟨n, c, rfl, hpass, -⟩ :=
        st.step_cases s token x
      · exact absurd h hpassed
      · exact absurd h hpassed
      · exact ⟨[], n, steps, c, rfl, hpass, rfl⟩

/-- **An identifier is remembered until a cleanup after the end of its token.** -/
theorem mem_entries_run {p : String × Int64} (hp : p ∈ st.store.entries) (steps : List Step) :
    p ∈ (st.run s token steps).store.entries
      ∨ ∃ between stalled, steps = between ++ .cleanup :: stalled
        ∧ p.2 < (st.run s token between).clock := by
  induction steps generalizing st with
  | nil => exact .inl hp
  | cons x steps ih =>
    by_cases hmem : p ∈ (st.step s token x).store.entries
    · refine (ih hmem).imp_right ?_
      rintro ⟨between, stalled, rfl, hend⟩
      exact ⟨x :: between, stalled, rfl, hend⟩
    · obtain ⟨hstore, -⟩ | ⟨rfl, hstore, -⟩ | ⟨_, _, -, -, hredeem, -⟩ :=
        st.step_cases s token x
      · exact absurd (hstore ▸ hp) hmem
      · rw [hstore, ReplayStore.mem_entries_cleanup, not_and, Int64.not_le] at hmem
        exact .inr ⟨[], steps, rfl, hmem hp⟩
      · exact absurd (TokenService.mem_entries_of_redeem hredeem hp) hmem

/-- Where nobody passes, nothing is added to what is remembered. -/
theorem mem_entries_of_run {p : String × Int64} {steps : List Step}
    (hpassed : (st.run s token steps).passed = st.passed)
    (hp : p ∈ (st.run s token steps).store.entries) : p ∈ st.store.entries := by
  induction steps generalizing st with
  | nil => exact hp
  | cons x steps ih =>
    have hstep := st.passed_le_step s token x
    have hrun := (st.step s token x).passed_le_run s token steps
    rw [run_cons] at hpassed hp
    have hmem := ih (by omega) hp
    obtain ⟨hstore, -⟩ | ⟨-, hstore, -⟩ | ⟨_, _, -, -, -, hone⟩ :=
      st.step_cases s token x
    · exact hstore ▸ hmem
    · exact (ReplayStore.mem_entries_cleanup.mp (hstore ▸ hmem)).1
    · omega

/-! ## A submission passes -/

/-- What a submission that passes leaves behind. -/
theorem Passes.step (s : TokenService) (token : String) {n : Nat} (h : st.Passes n c) :
    TokenService.redeem st.store c = .ok (st.step s token (.redeem n)).store
      ∧ (st.step s token (.redeem n)).passed = st.passed + 1 := by
  obtain ⟨hpending, hunused⟩ := h
  obtain ⟨store, hredeem⟩ := TokenService.exists_redeem_eq_ok_iff.mpr hunused
  rw [State.step, hpending]
  simp only [hredeem, and_self]

theorem isMemory_run (h : st.store.IsMemory) (steps : List Step) :
    (st.run s token steps).store.IsMemory := by
  induction steps generalizing st with
  | nil => exact h
  | cons x steps ih =>
    refine ih ?_
    obtain ⟨hstore, -⟩ | ⟨-, hstore, -⟩ | ⟨_, _, -, -, hredeem, -⟩ :=
      st.step_cases s token x
    · exact hstore ▸ h
    · exact hstore ▸ h.cleanup st.clock
    · exact ⟨_, ((TokenService.redeem_eq_ok_iff h).mp hredeem).2.2⟩

/-- **After a submission has passed, its identifier is there**, and under one end only. -/
theorem Passes.mem_entries_step {n : Nat} (h : st.Passes n c) (hmemory : st.store.IsMemory)
    (e : Int64) :
    (c.jti, e) ∈ (st.step s token (.redeem n)).store.entries ↔ e = c.expiresAt := by
  obtain ⟨-, -, hstore⟩ := (TokenService.redeem_eq_ok_iff hmemory).mp (h.step s token).1
  have hold : (c.jti, e) ∉ st.store.entries := fun hmem => by
    have := ReplayStore.contains_iff.mpr ⟨e, hmem⟩
    rw [h.2.2] at this
    cases this
  rw [hstore, ReplayStore.entries, List.mem_cons, or_iff_left hold, Prod.mk.injEq,
    and_iff_right rfl]

/-! ## When two pass -/

/-- **A submission that is stalled passes again**: another one has passed, a cleanup runs after the
end of the token, and the submission still holds the claims that it validated before. -/
structure Stalled (s : TokenService) (token : String) (st : State) (c : Claims)
    (before : List Step) (first : Nat) (between stalled : List Step) (second : Nat) : Prop where
  passes : (st.run s token before).Passes first c
  ended : c.expiresAt < (st.run s token (before ++ .redeem first :: between)).clock
  held : (st.run s token (before ++ .redeem first :: between)).pending second = some c
  holds : (st.run s token (before ++ .redeem first :: between ++ .cleanup :: stalled)).pending
    second = some c

theorem run_redeem (st : State) (before steps : List Step) (n : Nat) :
    st.run s token (before ++ .redeem n :: steps)
      = ((st.run s token before).step s token (.redeem n)).run s token steps := by
  rw [run_append, run_cons]

/-- Of two that pass, the second one was stalled. -/
theorem exists_stalled (hst : st.Sound s token) (hmemory : st.store.IsMemory) {steps : List Step}
    (h : st.passed + 2 ≤ (st.run s token steps).passed) :
    ∃ c before first between stalled second after,
      steps = before ++ .redeem first :: between ++ .cleanup :: stalled ++ .redeem second :: after
        ∧ st.Stalled s token c before first between stalled second := by
  have hlt : st.passed < (st.run s token steps).passed := by omega
  obtain ⟨before, first, rest, c, rfl, hpass, hcount⟩ := exists_first_pass hlt
  obtain ⟨hredeem, hone⟩ := hpass.step s token
  rw [run_redeem] at h
  generalize hst' : (st.run s token before).step s token (.redeem first) = st' at h hredeem hone
  have hlt' : st'.passed < (st'.run s token rest).passed := by omega
  obtain ⟨middle, second, after, c', rfl, hpass', -⟩ := exists_first_pass hlt'
  have hsound := hst.run (before ++ .redeem first :: middle)
  rw [run_redeem, hst'] at hsound
  obtain rfl := (hst.run before first c hpass.1).unique (hsound second c' hpass'.1)
  have hmem : (c.jti, c.expiresAt) ∈ st'.store.entries :=
    hst' ▸ (hpass.mem_entries_step (isMemory_run hmemory before) c.expiresAt).mpr rfl
  obtain hmem | ⟨between, stalled, rfl, hend⟩ := mem_entries_run (s := s) hmem middle
  · have hcontains := ReplayStore.contains_iff.mpr ⟨_, hmem⟩
    rw [hpass'.2.2] at hcontains
    cases hcontains
  · refine ⟨c, before, first, between, stalled, second, after, by simp, ⟨hpass, ?_, ?_, ?_⟩⟩
    · rwa [run_redeem, hst']
    · rw [run_redeem, hst']
      have hheld := hpass'.1
      rw [run_append] at hheld
      exact pending_of_ended (Int64.le_of_lt hend) hheld
    · rw [List.append_assoc, List.cons_append, run_redeem, hst']
      exact hpass'.1

/-- A cleanup after the end of a token forgets it, and it stays forgotten while nobody passes. -/
theorem contains_eq_false_of_ended {between stalled : List Step}
    (hentries : ∀ e, (c.jti, e) ∈ st.store.entries ↔ e = c.expiresAt)
    (hend : c.expiresAt < (st.run s token between).clock)
    (hpassed : (st.run s token (between ++ .cleanup :: stalled)).passed = st.passed) :
    (st.run s token (between ++ .cleanup :: stalled)).store.contains c.jti = false := by
  rw [run_append, run_cons] at hpassed ⊢
  have hbetween := st.passed_le_run s token between
  have hcleanup := (st.run s token between).passed_le_step s token .cleanup
  have hstalled := ((st.run s token between).step s token .cleanup).passed_le_run s token stalled
  rw [Bool.eq_false_iff]
  intro hcontains
  obtain ⟨e, hmem⟩ := ReplayStore.contains_iff.mp hcontains
  have hcleaned : (c.jti, e) ∈ ((st.run s token between).step s token .cleanup).store.entries :=
    mem_entries_of_run (by omega) hmem
  obtain ⟨hbefore, hlate⟩ := ReplayStore.mem_entries_cleanup.mp hcleaned
  obtain rfl := (hentries e).mp (mem_entries_of_run (by omega) hbefore)
  exact Int64.not_le.mpr hend hlate

/-- A stalled submission passes, unless yet another one has passed in the meantime. -/
theorem Stalled.two_le_passed {before between stalled after : List Step} {first second : Nat}
    (hmemory : st.store.IsMemory) (h : st.Stalled s token c before first between stalled second) :
    st.passed + 2 ≤ (st.run s token (before ++ .redeem first :: between ++ .cleanup :: stalled
      ++ .redeem second :: after)).passed := by
  obtain ⟨hpass, hend, -, hholds⟩ := h
  have hfirst := st.passed_le_run s token before
  have hone := (hpass.step s token).2
  have hentries (e : Int64) : (c.jti, e) ∈ ((st.run s token before).step s token
      (.redeem first)).store.entries ↔ e = c.expiresAt :=
    hpass.mem_entries_step (isMemory_run hmemory before) e
  rw [List.append_assoc, List.cons_append, run_redeem] at hholds
  rw [run_redeem] at hend
  rw [run_append, List.append_assoc, List.cons_append, run_redeem, run_cons]
  generalize (st.run s token before).step s token (.redeem first) = st₁ at *
  have hlast := (((st₁.run s token (between ++ .cleanup :: stalled)).step s token
    (.redeem second))).passed_le_run s token after
  by_cases hpassed : (st₁.run s token (between ++ .cleanup :: stalled)).passed = st₁.passed
  · have hunused := contains_eq_false_of_ended hentries hend hpassed
    have := (Passes.step s token ⟨hholds, hpass.2.1, hunused⟩).2
    omega
  · have := st₁.passed_le_run s token (between ++ .cleanup :: stalled)
    have := (st₁.run s token (between ++ .cleanup :: stalled)).passed_le_step s token
      (.redeem second)
    omega

theorem sound_start (clock : Int64) (used : List (String × Int64)) :
    (start clock used).Sound s token :=
  fun _ _ h => by cases h

/-- **When two submissions of one token pass**: exactly when one of them is stalled, with claims
that it validated before the end of the token, until a cleanup after the end has forgotten that
another one had passed. -/
theorem two_le_passed_iff (s : TokenService) (token : String) (clock : Int64)
    (used : List (String × Int64)) (steps : List Step) :
    2 ≤ ((start clock used).run s token steps).passed ↔
      ∃ c before first between stalled second after,
        steps = before ++ .redeem first :: between ++ .cleanup :: stalled
            ++ .redeem second :: after
          ∧ (start clock used).Stalled s token c before first between stalled second := by
  constructor
  · intro h
    exact exists_stalled (sound_start clock used) ⟨used, rfl⟩
      (show 0 + 2 ≤ _ from Nat.zero_add 2 ▸ h)
  · rintro ⟨c, before, first, between, stalled, second, after, rfl, h⟩
    exact h.two_le_passed ⟨used, rfl⟩

/-- Two submissions of a token that ends at second 100. -/
def sampleSteps : List Step :=
  [.validate 0 "", .validate 1 "", .redeem 0, .tick 101, .cleanup, .redeem 1]

/-- **Both pass.** -/
theorem two_passed_sample :
    ((start 0 []).run .sample (Token.sample "") sampleSteps).passed = 2 := by
  have hvalidate : TokenService.sample.validate (Token.sample "") 0 "" = .ok (.sample "") :=
    TokenService.validate_eq_ok_iff.mpr ⟨Token.signs_sample "", by decide, .inl rfl, .inr rfl,
      .inl rfl⟩
  have hstep (st : State) (hclock : st.clock = 0) (n : Nat) :
      st.step .sample (Token.sample "") (.validate n "") = st.hold n (some (.sample "")) := by
    rw [step, hclock, hvalidate]
    rfl
  rw [sampleSteps, run_cons, run_cons, hstep _ rfl, hstep _ rfl]
  rfl

end State

end ProofLogin.Interleaving
