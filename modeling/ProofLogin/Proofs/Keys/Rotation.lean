import Mathlib.Data.List.Chain
import ProofLogin.Keys.Rotation
import ProofLogin.Proofs.Chronology
import ProofLogin.Proofs.Keys.History

/-!
# Proofs/Keys/Rotation — what looks at the keys find, and what escapes them

    ──┬────────────[ lead ]───┬────▸ time
      │ nothing      warning  │ expired
                              e  (the expiry: nothing)

One look tells of each key what the expiry of that key asks for (`raises_expired_iff`,
`raises_warning_iff`).  Looks at most a lead time apart cannot jump over the lead time before an
expiry: one of them comes in it, and warns (`expiry_announced`).  Next to a leap second a distance
does not say how much time passes, so that looks can miss the lead time there
(`Instant.leapMargin`, `expired_without_warning`).
-/

namespace ProofLogin

/-! ## One look -/

/-- **There is an event of a kind for a key.** -/
def Raises (events : List RotationEvent) (kind : RotationKind) (k : Fingerprint) : Prop :=
  ∃ event ∈ events, event.kind = kind ∧ event.vkId = k

instance (events : List RotationEvent) (kind : RotationKind) (k : Fingerprint) :
    Decidable (Raises events kind k) :=
  inferInstanceAs (Decidable (∃ event ∈ events, event.kind = kind ∧ event.vkId = k))

/-- **What a look finds depends on the expiry only.** -/
theorem KeyVersion.expiryEvent?_eq_some_iff {v : KeyVersion} {lead : Nat} {now : Instant}
    {event : RotationEvent} : v.expiryEvent? lead now = some event ↔ ∃ e, v.expiresAt = some e
      ∧ (e < now ∧ event = .expired v.vkId e
        ∨ (now < e ∧ e.since now ≤ lead * Instant.nanosPerSecond)
          ∧ event = .expiryWarning v.vkId e now) := by
  rw [expiryEvent?]
  cases v.expiresAt with
  | none => simp
  | some e =>
    simp only [Option.some.injEq, exists_eq_left']
    split
    case isTrue hlt => simp [hlt, hlt.not_gt, eq_comm]
    case isFalse hge => split <;> simp_all [eq_comm]

theorem KeyVersion.vkId_of_expiryEvent? {v : KeyVersion} {lead : Nat} {now : Instant}
    {event : RotationEvent} (h : v.expiryEvent? lead now = some event) : event.vkId = v.vkId := by
  obtain ⟨e, -, ⟨-, rfl⟩ | ⟨-, rfl⟩⟩ := expiryEvent?_eq_some_iff.mp h
  · rfl
  · rfl

namespace KeyRegistry

variable {r : KeyRegistry} {s : RotationSchedule} {k : Fingerprint} {v : KeyVersion}
  {e now : Instant}

theorem mem_checkExpiration {event : RotationEvent} : event ∈ r.checkExpiration s now ↔
    ∃ v ∈ r.versions, v.expiryEvent? s.lead now = some event := by
  simp only [checkExpiration, list, List.mem_filterMap, (Ordered.sort_perm _ _).mem_iff]

/-- **A look tells of a key what it finds at the version of that key.** -/
theorem raises_iff (hr : r.InOrder) (hv : r.find? k = some v) {kind : RotationKind} :
    Raises (r.checkExpiration s now) kind k ↔
      ∃ event, v.expiryEvent? s.lead now = some event ∧ event.kind = kind := by
  constructor
  · rintro ⟨event, hmem, hkind, rfl⟩
    obtain ⟨u, hu, hevent⟩ := mem_checkExpiration.mp hmem
    have hfind := find?_of_mem hr.nodup hu
    rw [← KeyVersion.vkId_of_expiryEvent? hevent, hv] at hfind
    obtain rfl := Option.some.inj hfind
    exact ⟨event, hevent, hkind⟩
  · rintro ⟨event, hevent, hkind⟩
    have hmem := mem_checkExpiration.mpr ⟨v, List.mem_of_find?_eq_some hv, hevent⟩
    refine ⟨event, hmem, hkind, ?_⟩
    rw [KeyVersion.vkId_of_expiryEvent? hevent, vkId_of_find? hv]

/-- **A key is reported from its expiry on**, that moment excluded. -/
theorem raises_expired_iff (hr : r.InOrder) (hv : r.find? k = some v) (he : v.expiresAt = some e) :
    Raises (r.checkExpiration s now) .expired k ↔ e < now := by
  rw [raises_iff hr hv]
  constructor
  · rintro ⟨event, hevent, hkind⟩
    obtain ⟨e', he', ⟨hlt, -⟩ | ⟨-, rfl⟩⟩ := KeyVersion.expiryEvent?_eq_some_iff.mp hevent
    · obtain rfl := Option.some.inj (he.symm.trans he')
      exact hlt
    · cases hkind
  · intro hlt
    exact ⟨_, KeyVersion.expiryEvent?_eq_some_iff.mpr ⟨e, he, .inl ⟨hlt, rfl⟩⟩, rfl⟩

/-- **Of a key is warned within the lead time before its expiry**, that moment excluded. -/
theorem raises_warning_iff (hr : r.InOrder) (hv : r.find? k = some v) (he : v.expiresAt = some e) :
    Raises (r.checkExpiration s now) .expiryWarning k ↔
      now < e ∧ e.since now ≤ s.lead * Instant.nanosPerSecond := by
  rw [raises_iff hr hv]
  constructor
  · rintro ⟨event, hevent, hkind⟩
    obtain ⟨e', he', ⟨-, rfl⟩ | ⟨hwithin, -⟩⟩ := KeyVersion.expiryEvent?_eq_some_iff.mp hevent
    · cases hkind
    · obtain rfl := Option.some.inj (he.symm.trans he')
      exact hwithin
  · intro hwithin
    exact ⟨_, KeyVersion.expiryEvent?_eq_some_iff.mpr ⟨e, he, .inr ⟨hwithin, rfl⟩⟩, rfl⟩

/-! ## Looks one after the other -/

/-- **A look at the keys**, and what has been done to them since the look before. -/
structure Look where
  operations : List Operation
  moment : Instant

/-- The registries that looks find, and the moments of the looks. -/
def History.seen (h : History) : List Look → List (KeyRegistry × Instant)
  | [] => []
  | l :: ls => ((h.run l.operations).registry, l.moment) :: (h.run l.operations).seen ls

/-- The events that one look raises. -/
def report (s : RotationSchedule) (p : KeyRegistry × Instant) : List RotationEvent :=
  p.1.checkExpiration s p.2

/-- **The events that looks raise**, a list for each look. -/
def History.reports (h : History) (s : RotationSchedule) (ls : List Look) :
    List (List RotationEvent) :=
  (h.seen ls).map (report s)

variable {h : History} {ls : List Look} {t t' : Instant}

theorem History.map_moment_seen (h : History) (ls : List Look) :
    (h.seen ls).map Prod.snd = ls.map Look.moment := by
  induction ls generalizing h with
  | nil => rfl
  | cons l ls ih => rw [seen, List.map_cons, List.map_cons, ih]

theorem History.inOrder_seen (hr : h.registry.InOrder) : ∀ p ∈ h.seen ls, p.1.InOrder := by
  induction ls generalizing h with
  | nil => exact fun p hp => nomatch hp
  | cons l ls ih =>
    have hr' := (inOrder_run hr l.operations).1
    intro p hp
    obtain rfl | hp := List.mem_cons.mp hp
    · exact hr'
    · exact ih hr' p hp

/-- **What looks tell of a key whose expiry is the same at all of them.** -/
theorem History.raises_of_seen (hr : h.registry.InOrder)
    (hkept : ∀ p ∈ h.seen ls, ∃ v, p.1.find? k = some v ∧ v.expiresAt = some e)
    {p : KeyRegistry × Instant} (hp : p ∈ h.seen ls) :
    (Raises (report s p) .expired k ↔ e < p.2)
      ∧ (Raises (report s p) .expiryWarning k ↔
        p.2 < e ∧ e.since p.2 ≤ s.lead * Instant.nanosPerSecond) := by
  obtain ⟨v, hv, he⟩ := hkept p hp
  have hp := inOrder_seen hr p hp
  exact ⟨raises_expired_iff hp hv he, raises_warning_iff hp hv he⟩

/-- **Moments that begin before an expiry and end after it step over it.** -/
theorem exists_step_over {R : Instant → Instant → Prop} {ts : List Instant}
    (hsteps : (t :: ts).IsChain R) (hfirst : t < e) (hlast : ∃ u ∈ ts, e < u) :
    ∃ u u', u ∈ t :: ts ∧ R u u' ∧ u < e ∧ e ≤ u' := by
  induction ts generalizing t with
  | nil => exact absurd hlast fun ⟨_, hmem, _⟩ => nomatch hmem
  | cons t' ts ih =>
    obtain ⟨hstep, hsteps'⟩ := List.isChain_cons_cons.mp hsteps
    by_cases hlt : t' < e
    case pos =>
      have hlast' := ((List.exists_mem_cons_iff ..).mp hlast).resolve_left hlt.not_gt
      obtain ⟨w, w', hw, hstep', hbefore, hafter⟩ := ih hsteps' hlt hlast'
      exact ⟨w, w', List.mem_cons_of_mem _ hw, hstep', hbefore, hafter⟩
    case neg => exact ⟨t, t', List.mem_cons_self, hstep, hfirst, not_lt.mp hlt⟩

/-- **One of them is within the lead time**, if no step is longer. -/
theorem exists_within_lead {ts : List Instant} {lead : Int}
    (hgaps : ts.IsChain fun t t' => t'.since t + Instant.leapMargin e t t' ≤ lead)
    (hfirst : ∃ t, ts.head? = some t ∧ t < e) (hlast : ∃ t, ts.getLast? = some t ∧ e < t) :
    ∃ t ∈ ts, t < e ∧ e.since t ≤ lead := by
  obtain ⟨t, hhead, hbefore⟩ := hfirst
  obtain ⟨u, hu, hafter⟩ := hlast
  obtain ⟨ts, rfl⟩ := List.head?_eq_some_iff.mp hhead
  have hlast : ∃ u ∈ t :: ts, e < u := ⟨u, List.mem_of_getLast? hu, hafter⟩
  have hlast' := ((List.exists_mem_cons_iff ..).mp hlast).resolve_left hbefore.not_gt
  obtain ⟨w, w', hw, hgap, hw', hle⟩ := exists_step_over hgaps hbefore hlast'
  exact ⟨w, hw, hw', Int.le_trans (Instant.since_le_since_add hle) hgap⟩

/-- **Looks in order are those up to an expiry, and those after it.** -/
theorem exists_split {seen : List (KeyRegistry × Instant)}
    (hsorted : seen.Pairwise fun p q => p.2 < q.2) (hlast : ∃ p ∈ seen, e < p.2) :
    ∃ earlier first later, seen = earlier ++ first :: later
      ∧ (∀ p ∈ earlier, p.2 ≤ e) ∧ ∀ p ∈ first :: later, e < p.2 := by
  induction seen with
  | nil => exact absurd hlast fun ⟨_, hmem, _⟩ => nomatch hmem
  | cons p seen ih =>
    obtain ⟨hp, hsorted'⟩ := List.pairwise_cons.mp hsorted
    by_cases hlt : e < p.2
    case pos =>
      refine ⟨[], p, seen, rfl, (fun _ hq => nomatch hq), fun q hq => ?_⟩
      obtain rfl | hq := List.mem_cons.mp hq
      · exact hlt
      · exact lt_trans hlt (hp q hq)
    case neg =>
      have hlast' := ((List.exists_mem_cons_iff ..).mp hlast).resolve_left hlt
      obtain ⟨earlier, first, later, rfl, hearlier, hlater⟩ := ih hsorted' hlast'
      refine ⟨p :: earlier, first, later, rfl, fun q hq => ?_, hlater⟩
      obtain rfl | hq := List.mem_cons.mp hq
      · exact not_lt.mp hlt
      · exact hearlier q hq

/-- **Some look before those after the expiry is within the lead time.** -/
theorem exists_split_announced {seen : List (KeyRegistry × Instant)} {lead : Int}
    (hsorted : seen.Pairwise fun p q => p.2 < q.2)
    (hgaps : (seen.map Prod.snd).IsChain fun t t' => t'.since t + Instant.leapMargin e t t' ≤ lead)
    (hfirst : ∃ t, (seen.map Prod.snd).head? = some t ∧ t < e)
    (hlast : ∃ t, (seen.map Prod.snd).getLast? = some t ∧ e < t) :
    ∃ earlier first later, seen = earlier ++ first :: later
      ∧ (∃ p ∈ earlier, p.2 < e ∧ e.since p.2 ≤ lead)
      ∧ (∀ p ∈ earlier, p.2 ≤ e) ∧ ∀ p ∈ first :: later, e < p.2 := by
  obtain ⟨t, ht, hbefore, hwithin⟩ := exists_within_lead hgaps hfirst hlast
  obtain ⟨p, hp, rfl⟩ := List.mem_map.mp ht
  obtain ⟨t', ht', hafter⟩ := hlast
  obtain ⟨q, hq, rfl⟩ := List.mem_map.mp (List.mem_of_getLast? ht')
  obtain ⟨earlier, first, later, rfl, hearlier, hlater⟩ := exists_split hsorted ⟨q, hq, hafter⟩
  have hpmem : p ∈ earlier :=
    (List.mem_append.mp hp).resolve_right fun hp => lt_asymm hbefore (hlater p hp)
  exact ⟨earlier, first, later, rfl, ⟨p, hpmem, hbefore, hwithin⟩, hearlier, hlater⟩

/-- **No key expires unannounced.**  The expiry of a key is the same at all looks, the first of them
comes before it and the last one after it, and between two looks there is at most a lead time, less
the margin where a leap second is involved.  Then one of the looks before the first report of the
expiry warns of it; from that report on none does, and the last look reports it. -/
theorem expiry_announced (grace : Period) (ops : List Operation) (s : RotationSchedule)
    (ls : List Look)
    (hkept : ∀ p ∈ ((History.start grace).run ops).seen ls,
      ∃ v, p.1.find? k = some v ∧ v.expiresAt = some e)
    (hsorted : (ls.map Look.moment).Pairwise (· < ·))
    (hgaps : (ls.map Look.moment).IsChain fun t t' =>
      t'.since t + Instant.leapMargin e t t' ≤ s.lead * Instant.nanosPerSecond)
    (hfirst : ∃ t, (ls.map Look.moment).head? = some t ∧ t < e)
    (hlast : ∃ t, (ls.map Look.moment).getLast? = some t ∧ e < t) :
    let reports := ((History.start grace).run ops).reports s ls
    ∃ earlier first later, reports = earlier ++ first :: later
      ∧ (∃ events ∈ earlier, Raises events .expiryWarning k)
      ∧ (∀ events ∈ earlier, ¬Raises events .expired k)
      ∧ Raises first .expired k
      ∧ (∀ events ∈ first :: later, ¬Raises events .expiryWarning k)
      ∧ ∃ events, reports.getLast? = some events ∧ Raises events .expired k := by
  intro reports
  let h := (History.start grace).run ops
  have hr : h.registry.InOrder := (History.inOrder_run (h := .start grace) (.empty grace) ops).1
  have hraised {p} (hp : p ∈ h.seen ls) := History.raises_of_seen (s := s) hr hkept hp
  rw [← h.map_moment_seen ls] at hsorted hgaps hfirst hlast
  obtain ⟨earlier, first, later, hsplit, ⟨p, hp, hwithin⟩, hearlier, hlater⟩ :=
    exists_split_announced (List.pairwise_map.mp hsorted) hgaps hfirst hlast
  have hsub {u} (hu : u ∈ earlier) : u ∈ h.seen ls := hsplit ▸ List.mem_append_left _ hu
  have hsub' {u} (hu : u ∈ first :: later) : u ∈ h.seen ls := hsplit ▸ List.mem_append_right _ hu
  have hreports : reports = earlier.map (report s) ++ (first :: later).map (report s) := by
    rw [← List.map_append, ← hsplit]
    rfl
  refine ⟨earlier.map (report s), report s first, later.map (report s), hreports,
    ⟨report s p, List.mem_map_of_mem hp, (hraised (hsub hp)).2.mpr hwithin⟩,
    List.forall_mem_map.mpr fun u hu hexpired => ?_, ?_,
    List.forall_mem_map (l := first :: later).mpr fun u hu hwarned => ?_, ?_⟩
  · exact absurd ((hraised (hsub hu)).1.mp hexpired) (not_lt.mpr (hearlier u hu))
  · have hfirst := List.mem_cons_self (a := first) (l := later)
    exact (hraised (hsub' hfirst)).1.mpr (hlater first hfirst)
  · exact lt_asymm ((hraised (hsub' hu)).2.mp hwarned).1 (hlater u hu)
  · obtain ⟨t, ht, hafter⟩ := hlast
    rw [List.getLast?_map] at ht
    obtain ⟨q, hq, rfl⟩ := Option.map_eq_some_iff.mp ht
    refine ⟨report s q, ?_, (hraised (List.mem_of_getLast? hq)).1.mpr hafter⟩
    change ((h.seen ls).map (report s)).getLast? = _
    rw [List.getLast?_map, hq, Option.map_some]

/-! ## Looks next to a leap second -/

/-- **Two looks miss an expiry**: they are a lead time apart at most, the expiry comes between them,
the second one reports it and none has warned of it. -/
def Misses (lead : UInt64) (e t t' : Instant) : Prop :=
  let s : RotationSchedule := ⟨0, lead, 0⟩
  let h := (History.start 0).run [.register { History.sampleVersion 1 with expiresAt := some e }]
  let reports := h.reports s [⟨[], t⟩, ⟨[], t'⟩]
  t < e ∧ e < t' ∧ t'.since t ≤ s.lead * Instant.nanosPerSecond
    ∧ (∀ events ∈ reports, ¬Raises events .expiryWarning (History.sampleName 1))
    ∧ ∃ events ∈ reports, Raises events .expired (History.sampleName 1)

instance (lead : UInt64) (e t t' : Instant) : Decidable (Misses lead e t t') :=
  inferInstanceAs (Decidable (_ ∧ _ ∧ _ ∧ _ ∧ _))

/-- A moment by its distance from the beginning of 2017, in seconds and tenths of a second. -/
def sampleMoment (seconds : Int) (tenths : Nat) : Instant :=
  ⟨1483228800 + seconds, tenths % 20 * 100000000, by omega⟩

/-- **A key expires without a warning** where the expiry is in the leap second at the end of 2016,
and where the second look or the first one is in a leap second after noon of the next day. -/
theorem expired_without_warning :
    Misses 10 (sampleMoment (-1) 15) (sampleMoment (-10) 0) (sampleMoment 0 0)
      ∧ Misses 64859 (sampleMoment 43259 9) (sampleMoment (-21600) 5) (sampleMoment 43259 12)
      ∧ Misses 43140 (sampleMoment 86399 9) (sampleMoment 43259 10) (sampleMoment 86400 0) := by
  decide

/-- A key that expires in second 20, looked at in seconds 4, 12, 20 and 30; another key comes in the
meantime. -/
def sampleLooks : List Look :=
  [⟨[], .ofUnix 4⟩, ⟨[.register (History.sampleVersion 2)], .ofUnix 12⟩, ⟨[], .ofUnix 20⟩,
    ⟨[.setActive (History.sampleName 2)], .ofUnix 30⟩]

/-- With a lead time of ten seconds, the look in second 12 warns. -/
theorem expiry_announced_sample :
    let h := (History.start 0).run
      [.register { History.sampleVersion 1 with expiresAt := some (.ofUnix 20) }]
    let reports := h.reports ⟨0, 10, 0⟩ sampleLooks
    ∃ earlier first later, reports = earlier ++ first :: later
      ∧ (∃ events ∈ earlier, Raises events .expiryWarning (History.sampleName 1))
      ∧ (∀ events ∈ earlier, ¬Raises events .expired (History.sampleName 1))
      ∧ Raises first .expired (History.sampleName 1)
      ∧ (∀ events ∈ first :: later, ¬Raises events .expiryWarning (History.sampleName 1))
      ∧ ∃ events, reports.getLast? = some events
        ∧ Raises events .expired (History.sampleName 1) := by
  intro h
  have hkept : ∀ p ∈ h.seen sampleLooks,
      (p.1.find? (History.sampleName 1)).bind KeyVersion.expiresAt = some (.ofUnix 20) := by
    decide
  exact expiry_announced 0
    [.register { History.sampleVersion 1 with expiresAt := some (.ofUnix 20) }] ⟨0, 10, 0⟩
    sampleLooks (fun p hp => Option.bind_eq_some_iff.mp (hkept p hp)) (by decide) (by decide)
    ⟨.ofUnix 4, rfl, by decide⟩ ⟨.ofUnix 30, rfl, by decide⟩

end KeyRegistry

end ProofLogin
