import ProofLogin.Proofs.Keys.Rotation

/-!
# Proofs/Keys/Monitor — what a monitor tells of a key is what admission says of it

    registry ──list──▸ versions ──expiryEvent?──▸ events ──▸ notifier, one by one
        │                                           │
        └────────────── isValidAt ──────────────────┘ agree

Admission asks whether one key is valid, a look asks of all of them what is to be told.  Both
compare the expiry with the moment: a key is reported exactly if it is not valid, and a key that is
warned of can still be used (`raises_expired_iff_not_valid`, `raises_warning_iff_valid`).  What is
found is told in the order of the listing (`map_vkId_checkExpiration_sublist`), to any notifier
(`RotationMonitor.run_look`).

Lead times are distances, and a distance counts a leap second that its end is in: of two keys only
the later one may be warned of there (`earlier_expiry_without_warning`).
-/

namespace ProofLogin

/-! ## What is told -/

section Notifiers

variable {σ : Type}

/-- To tell of events is to tell of one after the other. -/
theorem RotationMonitor.run_notify (notify : RotationEvent → StateM σ Unit)
    (events : List RotationEvent) (state : σ) : (events.forM notify).run state
      = ((), events.foldl (fun state event => ((notify event).run state).2) state) := by
  induction events generalizing state with
  | nil => rfl
  | cons event events ih => exact ih _

/-- **A look returns what it has told of.** -/
theorem RotationMonitor.run_look (m : RotationMonitor σ) (r : KeyRegistry) (now : Instant)
    (state : σ) :
    let events := r.checkExpiration m.schedule now
    (m.look r now).run state
      = (events, events.foldl (fun state event => ((m.notify event).run state).2) state) := by
  simp only [look, StateT.run_bind, run_notify]
  rfl

theorem EventChannel.run_send (event : RotationEvent) (c : EventChannel) :
    (send event).run c = ((), if c.isOpen then { c with sent := c.sent ++ [event] } else c) :=
  rfl

/-- **A channel has everything that was sent**, in that order, as long as it is open. -/
theorem EventChannel.foldl_send (events : List RotationEvent) (c : EventChannel) :
    events.foldl (fun c event => ((send event).run c).2) c
      = if c.isOpen then { c with sent := c.sent ++ events } else c := by
  induction events generalizing c with
  | nil => simp
  | cons event events ih =>
    rw [List.foldl_cons, run_send, ih]
    cases hopen : c.isOpen with
    | false => simp [hopen]
    | true => simp [List.append_assoc]

end Notifiers

namespace KeyRegistry

variable {r : KeyRegistry} {s : RotationSchedule} {k : Fingerprint} {now : Instant}

/-! ## Looks and admission -/

theorem exists_find?_of_raises (hr : r.InOrder) {kind : RotationKind}
    (h : Raises (r.checkExpiration s now) kind k) : ∃ v, r.find? k = some v := by
  obtain ⟨event, hmem, -, rfl⟩ := h
  obtain ⟨v, hv, hevent⟩ := mem_checkExpiration.mp hmem
  exact ⟨v, KeyVersion.vkId_of_expiryEvent? hevent ▸ find?_of_mem hr.nodup hv⟩

theorem exists_expiresAt_of_raises (hr : r.InOrder) {kind : RotationKind} {v : KeyVersion}
    (hv : r.find? k = some v) (h : Raises (r.checkExpiration s now) kind k) :
    ∃ e, v.expiresAt = some e := by
  obtain ⟨event, hevent, -⟩ := (raises_iff hr hv).mp h
  obtain ⟨e, he, -⟩ := KeyVersion.expiryEvent?_eq_some_iff.mp hevent
  exact ⟨e, he⟩

/-- **A key is reported exactly if it is registered and not valid.** -/
theorem raises_expired_iff_not_valid (hr : r.InOrder) :
    Raises (r.checkExpiration s now) .expired k ↔
      (∃ v, r.find? k = some v) ∧ r.isValidAt k now = false := by
  constructor
  · intro h
    obtain ⟨v, hv⟩ := exists_find?_of_raises hr h
    obtain ⟨e, he⟩ := exists_expiresAt_of_raises hr hv h
    exact ⟨⟨v, hv⟩, (isValidAt_eq_false_iff_of_find? hv).mpr
      ⟨e, he, (raises_expired_iff hr hv he).mp h⟩⟩
  · rintro ⟨⟨v, hv⟩, hnot⟩
    obtain ⟨e, he, hlt⟩ := (isValidAt_eq_false_iff_of_find? hv).mp hnot
    exact (raises_expired_iff hr hv he).mpr hlt

/-- **Of a key is warned exactly if it is valid and expires within the lead time**, the moment of
the expiry excluded. -/
theorem raises_warning_iff_valid (hr : r.InOrder) :
    Raises (r.checkExpiration s now) .expiryWarning k ↔
      r.isValidAt k now = true ∧ ∃ v e, r.find? k = some v ∧ v.expiresAt = some e
        ∧ now < e ∧ e.since now ≤ s.lead * Instant.nanosPerSecond := by
  constructor
  · intro h
    obtain ⟨v, hv⟩ := exists_find?_of_raises hr h
    obtain ⟨e, he⟩ := exists_expiresAt_of_raises hr hv h
    obtain ⟨hlt, hwithin⟩ := (raises_warning_iff hr hv he).mp h
    refine ⟨(isValidAt_iff_of_find? hv).mpr fun e' he' => ?_, v, e, hv, he, hlt, hwithin⟩
    obtain rfl := Option.some.inj (he.symm.trans he')
    exact hlt.le
  · rintro ⟨-, v, e, hv, he, hwithin⟩
    exact (raises_warning_iff hr hv he).mpr hwithin

/-! ## The order of the events -/

/-- **The events come in the order of the listing**, at most one for each key of it. -/
theorem map_vkId_checkExpiration_sublist :
    ((r.checkExpiration s now).map RotationEvent.vkId).Sublist (r.list.map KeyVersion.vkId) := by
  rw [checkExpiration]
  induction r.list with
  | nil => exact .slnil
  | cons v vs ih =>
    cases hevent : v.expiryEvent? s.lead now with
    | none =>
      rw [List.filterMap_cons, hevent]
      exact ih.cons _
    | some event =>
      rw [List.filterMap_cons, hevent, List.map_cons, List.map_cons,
        KeyVersion.vkId_of_expiryEvent? hevent]
      exact ih.cons_cons _

theorem InOrder.nodup_list (hr : r.InOrder) : (r.list.map KeyVersion.vkId).Nodup :=
  ((Ordered.sort_perm _ _).map _).nodup_iff.mpr hr.nodup

/-! ## The monitor -/

/-- **The monitor never contradicts admission.**  In every registry that can come about, at every
moment and for every lead time, a look reports a key exactly if it is registered and not valid, and
warns of a key exactly if it is valid, its expiry is still to come and at most a lead time away.
Away from leap seconds that is to say that the expiry comes at most that many seconds later; and no
distance between moments of the calendar is too long to be counted.  There is at most one event for
each key, in the order of the listing, and every notifier is told of exactly the events that the
look returns, one by one in that order. -/
theorem monitor_agrees_with_admission (grace : Period) (ops : List Operation)
    (s : RotationSchedule) (now : Instant) :
    let r := ((History.start grace).run ops).registry
    let events := r.checkExpiration s now
    let lead := min s.leadSeconds.toNat 9223372036854775
    (∀ k, Raises events .expired k ↔
        (∃ v, r.find? k = some v) ∧ r.isValidAt k now = false)
      ∧ (∀ k, Raises events .expiryWarning k ↔
        r.isValidAt k now = true ∧ ∃ v e, r.find? k = some v ∧ v.expiresAt = some e
          ∧ now < e ∧ e.since now ≤ lead * 1000000000)
      ∧ (∀ e : Instant, e.inLeapSecond = false → now.inLeapSecond = false →
        (e.since now ≤ lead * 1000000000 ↔
          e ≤ ⟨now.seconds + lead, now.nanos, now.nanos_lt⟩))
      ∧ (∀ e : Instant, Instant.inCalendar e.seconds = true →
        Instant.inCalendar now.seconds = true →
        (e.since now).natAbs ≤ 9223372036854775 * 1000000000)
      ∧ (events.map RotationEvent.vkId).Nodup
      ∧ (events.map RotationEvent.vkId).Sublist (r.list.map KeyVersion.vkId)
      ∧ (∀ (σ : Type) (notify : RotationEvent → StateM σ Unit) (state : σ),
        (RotationMonitor.look ⟨s, notify⟩ r now).run state
          = (events, events.foldl (fun state event => ((notify event).run state).2) state))
      ∧ ∀ sent, (RotationMonitor.look ⟨s, EventChannel.send⟩ r now).run ⟨sent, true⟩
          = (events, ⟨sent ++ events, true⟩) := by
  intro r events lead
  have hr : r.InOrder := (History.inOrder_run_start grace ops).1
  have hsublist : (events.map RotationEvent.vkId).Sublist (r.list.map KeyVersion.vkId) :=
    map_vkId_checkExpiration_sublist
  refine ⟨fun k => raises_expired_iff_not_valid hr, fun k => raises_warning_iff_valid hr,
    fun e he hnow => Instant.since_le_iff he hnow _,
    fun e he hnow => Instant.natAbs_since_le he hnow, hsublist.nodup hr.nodup_list, hsublist,
    fun σ notify state => RotationMonitor.run_look ⟨s, notify⟩ r now state, fun sent => ?_⟩
  rw [RotationMonitor.run_look, EventChannel.foldl_send]
  rfl

/-- **Of two keys only the one that expires later is warned of**: the earlier one expires in the
leap second at the end of 2016, the later one half a second after it, which is the look and ten
seconds.  So there is no moment up to which the expiries are that are warned of. -/
theorem earlier_expiry_without_warning :
    let now := sampleMoment (-10) 0
    let e := sampleMoment (-1) 15
    let e' := sampleMoment 0 0
    let r := ((History.start 0).run
      [.register { History.sampleVersion 1 with expiresAt := some e },
        .register { History.sampleVersion 2 with expiresAt := some e' }]).registry
    let events := r.checkExpiration ⟨0, 10, 0⟩ now
    (now < e ∧ e < e' ∧ now.plus? 10 = some e')
      ∧ (r.isValidAt (History.sampleName 1) now = true
        ∧ ¬Raises events .expiryWarning (History.sampleName 1))
      ∧ (r.isValidAt (History.sampleName 2) now = true
        ∧ Raises events .expiryWarning (History.sampleName 2))
      ∧ ¬∃ later, ∀ k v e, r.find? k = some v → v.expiresAt = some e →
        (Raises events .expiryWarning k ↔ r.isValidAt k now = true ∧ now < e ∧ e ≤ later) := by
  intro now e e' r events
  have horder : now < e ∧ e < e' ∧ now.plus? 10 = some e' := by decide
  have hearlier : r.isValidAt (History.sampleName 1) now = true
      ∧ ¬Raises events .expiryWarning (History.sampleName 1) := by decide
  have hlater : r.isValidAt (History.sampleName 2) now = true
      ∧ Raises events .expiryWarning (History.sampleName 2) := by decide
  refine ⟨horder, hearlier, hlater, ?_⟩
  rintro ⟨later, hlead⟩
  obtain ⟨-, -, hle⟩ := (hlead (History.sampleName 2) _ e' rfl rfl).mp hlater.2
  exact hearlier.2 ((hlead (History.sampleName 1) _ e rfl rfl).mpr
    ⟨hearlier.1, horder.1, horder.2.1.le.trans hle⟩)

end KeyRegistry

end ProofLogin
