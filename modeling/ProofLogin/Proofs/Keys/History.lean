import ProofLogin.Proofs.Keys.Registry

/-!
# Proofs/Keys/History — a registry over all its operations

    registry ── operation ──▸ registry ── operation ──▸ …
                    │
                    └─ refused: nothing changes and nobody is told

An operation keeps the registry in order (`History.inOrder_step`). It keeps every key that is
registered, and changes the expiry of a key only where it deprecates that key
(`History.find?_step`). A run is a fold of operations, so that both hold of every run.
-/

namespace ProofLogin.KeyRegistry

/-- **What can be done to a registry.** -/
inductive Operation where
  | register (version : KeyVersion)
  | setActive (vkId : Fingerprint)
  | deprecateAt (vkId : Fingerprint) (moment : Instant)

namespace Operation

/-- **The operation as it is done.** -/
def perform : Operation → Action Unit
  | .register version => registering version
  | .setActive vkId => activating vkId
  | .deprecateAt vkId moment => discard (deprecating vkId moment)

/-- **The registry after an operation**, and the event that operators are told, unless the operation
is refused. -/
def outcome (r : KeyRegistry) (op : Operation) :
    Except RegistryError (KeyRegistry × Option RotationEvent) :=
  (op.perform.outcome r).map fun (_, h) => (h.registry, h.events.head?)

/-- **The expiry of a key after an operation**: only the deprecation of that key sets it, to the end
of the period of grace, or to the last moment where the calendar ends before. -/
def expiry (grace : Period) (vkId : Fingerprint) (expiresAt : Option Instant) :
    Operation → Option Instant
  | .deprecateAt vkId' moment =>
    if vkId' = vkId then some ((moment.plus? grace).getD .last) else expiresAt
  | _ => expiresAt

variable {r r' : KeyRegistry} {e? : Option RotationEvent} {op : Operation}

theorem outcome_register (r : KeyRegistry) (v : KeyVersion) :
    (register v).outcome r = (r.register v).map fun r => (r, none) := by
  rw [register_eq, outcome, Action.outcome, perform, run_registering]
  cases r.find? v.vkId <;> rfl

theorem outcome_setActive (r : KeyRegistry) (k : Fingerprint) :
    (setActive k).outcome r = r.setActive k :=
  rfl

theorem outcome_deprecateAt (r : KeyRegistry) (k : Fingerprint) (moment : Instant) :
    (deprecateAt k moment).outcome r = (r.deprecateAt k moment).map fun (r, _) => (r, none) := by
  rw [deprecateAt_eq, outcome, Action.outcome, perform, Outcome.run_discard, run_deprecating]
  cases r.find? k <;> rfl

/-- **An operation that is refused has written nothing** and has told nobody; otherwise it has told
of one event at most. -/
theorem run_perform (h : History) (op : Operation) :
    op.perform.run.run h = match op.outcome h.registry with
      | .error err => (.error err, h)
      | .ok (r, e?) => (.ok (), ⟨r, h.events ++ e?.toList⟩) := by
  cases op with
  | register v =>
    rw [outcome_register, register_eq, perform, run_registering]
    cases h.registry.find? v.vkId with
    | some u => rfl
    | none => simp [Except.map]
  | setActive k =>
    rw [outcome_setActive, setActive_eq, perform, run_activating]
    cases h.registry.find? k with
    | none => rfl
    | some u =>
      by_cases hactive : h.registry.active = some k
      · simp [if_pos hactive]
      · simp [if_neg hactive]
  | deprecateAt k moment =>
    rw [outcome_deprecateAt, deprecateAt_eq, perform, Outcome.run_discard, run_deprecating]
    cases h.registry.find? k with
    | none => rfl
    | some u => simp [Except.map]

/-- **What an operation that succeeds has done.** -/
theorem outcome_cases (h : op.outcome r = .ok (r', e?)) :
    (∃ v, op = .register v ∧ r.register v = .ok r')
      ∨ (∃ vkId, op = .setActive vkId ∧ r.setActive vkId = .ok (r', e?))
      ∨ ∃ vkId moment e, op = .deprecateAt vkId moment
        ∧ r.deprecateAt vkId moment = .ok (r', e) := by
  cases op with
  | register v =>
    obtain ⟨_, hr, heq⟩ := Outcome.map_eq_ok.mp (outcome_register r v ▸ h)
    obtain ⟨rfl, -⟩ := Prod.mk.inj heq
    exact .inl ⟨v, rfl, hr⟩
  | setActive vkId => exact .inr (.inl ⟨vkId, rfl, outcome_setActive r vkId ▸ h⟩)
  | deprecateAt vkId moment =>
    obtain ⟨⟨_, e⟩, hr, heq⟩ := Outcome.map_eq_ok.mp (outcome_deprecateAt r vkId moment ▸ h)
    obtain ⟨rfl, -⟩ := Prod.mk.inj heq
    exact .inr (.inr ⟨vkId, moment, e, rfl, hr⟩)

theorem inOrder (hr : r.InOrder) (h : op.outcome r = .ok (r', e?)) : r'.InOrder := by
  obtain ⟨v, -, h⟩ | ⟨vkId, -, h⟩ | ⟨vkId, moment, e, -, h⟩ := outcome_cases h
  · exact hr.register h
  · exact hr.setActive h
  · exact hr.deprecateAt h

theorem grace_eq (hr : r.InOrder) (h : op.outcome r = .ok (r', e?)) : r'.grace = r.grace := by
  obtain ⟨v, -, h⟩ | ⟨vkId, -, h⟩ | ⟨vkId, moment, e, -, h⟩ := outcome_cases h
  · obtain ⟨-, rfl⟩ := register_eq_ok_iff.mp h
    rfl
  · obtain ⟨-, rfl⟩ := hr.setActive_eq_ok h
    rfl
  · obtain ⟨-, -, rfl⟩ := deprecateAt_eq_ok_iff.mp h
    rfl

/-- **A registered key outlives an operation**: its mark may change, and its expiry as `expiry`
says. -/
theorem find?_eq (hr : r.InOrder) (h : op.outcome r = .ok (r', e?)) {k : Fingerprint}
    {v : KeyVersion} (hv : r.find? k = some v) :
    ∃ isActive, r'.find? k
      = some { v with expiresAt := op.expiry r.grace k v.expiresAt, isActive } := by
  obtain ⟨u, rfl, hu⟩ | ⟨vkId, rfl, hactive⟩ | ⟨vkId, moment, e, rfl, he⟩ := outcome_cases h
  · obtain ⟨hnew, rfl⟩ := register_eq_ok_iff.mp hu
    have hne : u.vkId ≠ k := by
      rintro rfl
      cases hnew.symm.trans hv
    exact ⟨v.isActive, (List.find?_cons_of_neg (by simpa using hne)).trans hv⟩
  · obtain ⟨-, rfl⟩ := hr.setActive_eq_ok hactive
    refine ⟨decide (v.vkId = vkId), ?_⟩
    rw [find?_map (f := fun v => { v with isActive := decide (v.vkId = vkId) }) fun _ => rfl, hv]
    rfl
  · obtain ⟨-, rfl, rfl⟩ := deprecateAt_eq_ok_iff.mp he
    refine ⟨v.isActive, ?_⟩
    have hname : v.vkId = k := vkId_of_find? hv
    rw [modify, find?_map fun w => by split <;> rfl, hv, Option.map_some, expiry]
    by_cases hk : vkId = k
    · rw [if_pos hk, if_pos (hname.trans hk.symm)]
      rfl
    · rw [if_neg hk, if_neg fun heq => hk (heq.symm.trans hname)]

/-- A registered key can be deprecated, so that what is refused leaves its expiry as it is. -/
theorem expiry_of_error {err : RegistryError} (h : op.outcome r = .error err) {k : Fingerprint}
    {v : KeyVersion} (hv : r.find? k = some v) : op.expiry r.grace k v.expiresAt = v.expiresAt := by
  cases op with
  | register u => rfl
  | setActive vkId => rfl
  | deprecateAt vkId moment =>
    refine if_neg ?_
    rintro rfl
    rw [outcome_deprecateAt, deprecateAt_eq_ok_iff.mpr ⟨⟨v, hv⟩, rfl, rfl⟩] at h
    cases h

end Operation

/-! ## Histories -/

namespace History

/-- Nothing has happened. -/
def start (grace : Period) : History := ⟨.empty grace, []⟩

/-- One operation more, whether or not it is refused. -/
def step (h : History) (op : Operation) : History :=
  (op.perform.run.run h).2

/-- **The history after operations.** -/
def run (h : History) (ops : List Operation) : History :=
  ops.foldl step h

variable {h : History}

theorem step_eq_self {op : Operation} {err : RegistryError}
    (herr : op.outcome h.registry = .error err) : h.step op = h := by
  rw [step, Operation.run_perform, herr]

theorem step_eq {op : Operation} {r : KeyRegistry} {e? : Option RotationEvent}
    (hok : op.outcome h.registry = .ok (r, e?)) : h.step op = ⟨r, h.events ++ e?.toList⟩ := by
  rw [step, Operation.run_perform, hok]

theorem step_registry {op : Operation} {r : KeyRegistry} {e? : Option RotationEvent}
    (hok : op.outcome h.registry = .ok (r, e?)) : (h.step op).registry = r := by
  rw [step_eq hok]

/-- **An operation that is refused leaves no trace.** -/
theorem step_of_run_eq_error {op : Operation} {err : RegistryError}
    (herr : (op.perform.run.run h).1 = .error err) : h.step op = h := by
  rw [Operation.run_perform] at herr
  match hop : op.outcome h.registry with
  | .error err' => exact step_eq_self hop
  | .ok (r, e?) =>
    rw [hop] at herr
    cases herr

/-- **An operation keeps the registry in order.** -/
theorem inOrder_step (hr : h.registry.InOrder) (op : Operation) :
    (h.step op).registry.InOrder ∧ (h.step op).registry.grace = h.registry.grace := by
  match hop : op.outcome h.registry with
  | .error err => rw [step_eq_self hop]; exact ⟨hr, rfl⟩
  | .ok (r, e?) =>
    rw [step_registry hop]
    exact ⟨Operation.inOrder hr hop, Operation.grace_eq hr hop⟩

/-- **An operation keeps every registered key**: its mark may change, and its expiry where the
operation deprecates it. -/
theorem find?_step (hr : h.registry.InOrder) (op : Operation) {k : Fingerprint} {v : KeyVersion}
    (hv : h.registry.find? k = some v) :
    ∃ isActive, (h.step op).registry.find? k
      = some { v with expiresAt := op.expiry h.registry.grace k v.expiresAt, isActive } := by
  match hop : op.outcome h.registry with
  | .ok (r, e?) => rw [step_registry hop]; exact Operation.find?_eq hr hop hv
  | .error err =>
    rw [step_eq_self hop, Operation.expiry_of_error hop hv]
    exact ⟨v.isActive, hv⟩

/-- **A run keeps the registry in order.** -/
theorem inOrder_run (hr : h.registry.InOrder) (ops : List Operation) :
    (h.run ops).registry.InOrder ∧ (h.run ops).registry.grace = h.registry.grace := by
  induction ops generalizing h with
  | nil => exact ⟨hr, rfl⟩
  | cons op ops ih =>
    obtain ⟨hstep, hgrace⟩ := inOrder_step hr op
    exact hgrace ▸ ih hstep

/-- **Every registry that can come about is in order**, and has the period of grace that it began
with. -/
theorem inOrder_run_start (grace : Period) (ops : List Operation) :
    ((start grace).run ops).registry.InOrder ∧ ((start grace).run ops).registry.grace = grace :=
  inOrder_run (h := start grace) (.empty grace) ops

/-- **A run keeps every registered key**: its expiry is as its last deprecation has set it. -/
theorem find?_run (hr : h.registry.InOrder) (ops : List Operation) {k : Fingerprint}
    {v : KeyVersion} (hv : h.registry.find? k = some v) :
    ∃ isActive, (h.run ops).registry.find? k = some { v with
      expiresAt := ops.foldl (Operation.expiry h.registry.grace k) v.expiresAt, isActive } := by
  induction ops generalizing h v with
  | nil => exact ⟨v.isActive, hv⟩
  | cons op ops ih =>
    obtain ⟨hstep, hgrace⟩ := inOrder_step hr op
    obtain ⟨marked, hv'⟩ := find?_step hr op hv
    exact hgrace ▸ ih hstep hv'

/-- **What holds of a registry after any operations**, successful or not. A version is active as
soon as there is one; it is the only one that is marked, and it is found under the active name. A
key that is registered stays as it was registered, its mark apart and its expiry, which is set by
its deprecation only; it is trusted up to that expiry. What is refused changes nothing and is not
told to anybody. -/
theorem run_from_empty (grace : Period) (ops : List Operation) :
    let h := (start grace).run ops
    ((∃ v, h.registry.getActive = .ok v) ↔ h.registry.versions ≠ [])
      ∧ (∀ v, h.registry.getActive = .ok v → h.registry.versions.filter KeyVersion.isActive = [v])
      ∧ (∀ k, h.registry.getActive ≠ .error (.notFound k))
      ∧ (∀ v r, h.registry.register v = .ok r →
        r.find? v.vkId = some { v with isActive := decide (h.registry.versions = []) })
      ∧ (∀ k v later, h.registry.find? k = some v →
        let expiresAt := later.foldl (Operation.expiry grace k) v.expiresAt
        (∃ isActive, (h.run later).registry.find? k = some { v with expiresAt, isActive })
          ∧ ∀ t, (h.run later).registry.isValidAt k t = true ↔ ∀ e, expiresAt = some e → t ≤ e)
      ∧ ∀ op err, (op.perform.run.run h).1 = .error err → h.step op = h := by
  intro h
  obtain ⟨hr, hgrace⟩ : h.registry.InOrder ∧ h.registry.grace = grace :=
    inOrder_run (h := start grace) (.empty grace) ops
  refine ⟨hr.exists_getActive_iff, fun v => hr.filter_of_getActive, fun k => hr.getActive_ne,
    ?_, ?_, fun op err => step_of_run_eq_error⟩
  · intro v r hok
    exact hr.find?_register hok
  · intro k v later hv expiresAt
    obtain ⟨marked, hlater⟩ := find?_run hr later hv
    rw [hgrace] at hlater
    exact ⟨⟨marked, hlater⟩, fun t => isValidAt_iff_of_find? hlater⟩

/-- The name of a key. -/
def sampleName (n : UInt8) : Fingerprint := ⟨⟨List.replicate 32 n, by simp⟩⟩

/-- A version that is marked as active already when it comes. -/
def sampleVersion (n : UInt8) : KeyVersion :=
  ⟨"v", sampleName n, sampleName n, .epoch, none, true⟩

/-- Two keys are registered, and the second one is made active. A third one is not there. -/
def sampleOps : List Operation :=
  [.register (sampleVersion 1), .register (sampleVersion 2), .setActive (sampleName 3),
    .setActive (sampleName 2)]

/-- The first key is deprecated with a minute of grace: it is trusted in second 60, and no more in
second 61. -/
theorem run_from_empty_sample :
    let h := (start 60).run sampleOps
    h.registry.getActive = .ok (sampleVersion 2)
      ∧ h.registry.versions.filter KeyVersion.isActive = [sampleVersion 2]
      ∧ (h.run [.deprecateAt (sampleName 1) .epoch]).registry.isValidAt (sampleName 1) (.ofUnix 60)
        = true
      ∧ (h.run [.deprecateAt (sampleName 1) .epoch]).registry.isValidAt (sampleName 1) (.ofUnix 61)
        ≠ true
      ∧ h.step (.register (sampleVersion 1)) = h := by
  intro h
  obtain ⟨-, hmarked, -, -, hkept, hrefused⟩ := run_from_empty 60 sampleOps
  have hactive : h.registry.getActive = .ok (sampleVersion 2) := by decide
  have hfind : h.registry.find? (sampleName 1)
      = some { sampleVersion 1 with isActive := false } := by
    decide
  obtain ⟨-, hvalid⟩ := hkept (sampleName 1) _ [.deprecateAt (sampleName 1) .epoch] hfind
  refine ⟨hactive, hmarked _ hactive, (hvalid _).mpr ?_, fun htrusted => ?_,
    hrefused _ (.alreadyRegistered (sampleName 1)) rfl⟩
  · rintro e ⟨⟩
    exact Instant.not_lt.mp (by decide)
  · exact Instant.not_lt.mpr ((hvalid _).mp htrusted _ rfl) (by decide)

end History

end ProofLogin.KeyRegistry
