import ProofLogin.Proofs.Chronology
import ProofLogin.Proofs.Keys.History

/-!
# Proofs/Keys/Expiry — how long a key stays expired

    trusted ── its expiry passes ──▸ expired ── deprecateAt ──▸ trusted for a period of grace
                                      │    ▴
                                      └────┘ anything else

Time and the operations on other keys leave an expired key expired.  Its own deprecation writes a
new expiry in the place of any other one, also in the place of one that has passed: a key that has
expired is trusted again exactly until the grace of its last deprecation ends
(`valid_again_iff_deprecated`), so that an expiry is not final (`expired_key_valid_again`).
-/

namespace ProofLogin.KeyRegistry

/-! ## The deprecations of a key -/

namespace Operation

/-- The moment from which the operation deprecates a key. -/
def deprecates? (k : Fingerprint) : Operation → Option Instant
  | .deprecateAt k' moment => if k' = k then some moment else none
  | _ => none

theorem expiry_eq (grace : Period) (k : Fingerprint) (expiresAt : Option Instant) (op : Operation) :
    op.expiry grace k expiresAt = ((op.deprecates? k).map (·.after grace)).or expiresAt := by
  cases op with
  | register v => rfl
  | setActive k' => rfl
  | deprecateAt k' moment =>
    rw [expiry, deprecates?]
    split <;> rfl

end Operation

/-- **The moments from which operations deprecate a key**, the first one first. -/
def deprecations (k : Fingerprint) (ops : List Operation) : List Instant :=
  ops.filterMap (Operation.deprecates? k)

/-- **The last deprecation sets the expiry**, whatever it was before. -/
theorem foldl_expiry (grace : Period) (k : Fingerprint) (expiresAt : Option Instant)
    (ops : List Operation) : ops.foldl (Operation.expiry grace k) expiresAt
      = ((deprecations k ops).getLast?.map (·.after grace)).or expiresAt := by
  induction ops generalizing expiresAt with
  | nil => rfl
  | cons op ops ih =>
    rw [List.foldl_cons, ih, Operation.expiry_eq]
    simp only [deprecations, List.filterMap_cons]
    cases op.deprecates? k with
    | none => rfl
    | some moment =>
      rw [Option.map_some, Option.some_or, List.getLast?_cons]
      cases (ops.filterMap (Operation.deprecates? k)).getLast? <;> rfl

namespace History

variable {h : History} {k : Fingerprint} {v : KeyVersion}

/-- **A key after a run is trusted up to the end of its last grace**, or up to the expiry that it
had before. -/
theorem isValidAt_run_iff (hr : h.registry.InOrder) (hv : h.registry.find? k = some v)
    (ops : List Operation) (t : Instant) : (h.run ops).registry.isValidAt k t = true ↔
      ∀ e, ((deprecations k ops).getLast?.map (·.after h.registry.grace)).or v.expiresAt = some e →
        t ≤ e := by
  obtain ⟨marked, hlater⟩ := find?_run hr ops hv
  rw [isValidAt_iff_of_find? hlater, foldl_expiry]

theorem exists_expiry_of_expired {t : Instant} (hv : h.registry.find? k = some v)
    (hexpired : h.registry.isValidAt k t = false) : ∃ e, v.expiresAt = some e ∧ e < t :=
  (isValidAt_eq_false_iff_of_find? hv).mp hexpired

/-- **A key that has expired stays expired until it is deprecated**, whatever happens to it and to
other keys.  Once it has been deprecated, it is trusted again exactly up to the end of the grace
that its last deprecation gives it.  A deprecation never fails for a registered key; after it the
key is trusted up to the end of the grace, and no longer, whatever its expiry was before. -/
theorem valid_again_iff_deprecated (grace : Period) (ops : List Operation)
    (hv : ((start grace).run ops).registry.find? k = some v) :
    let h := (start grace).run ops
    (∀ later t t', h.registry.isValidAt k t = false → t ≤ t' →
        ((h.run later).registry.isValidAt k t' = true ↔
          ∃ moment, (deprecations k later).getLast? = some moment ∧ t' ≤ moment.after grace))
      ∧ ∀ now, ∃ r, h.registry.deprecateAt k now = .ok (r, now.after grace)
        ∧ ∀ t, r.isValidAt k t = true ↔ t ≤ now.after grace := by
  intro h
  obtain ⟨hr, hgrace⟩ : h.registry.InOrder ∧ h.registry.grace = grace :=
    inOrder_run (h := start grace) (.empty grace) ops
  constructor
  · intro later t t' hexpired hle
    obtain ⟨e, he, hlt⟩ := exists_expiry_of_expired hv hexpired
    rw [isValidAt_run_iff hr hv, hgrace, he]
    cases (deprecations k later).getLast? with
    | none =>
      refine iff_of_false (fun hvalid => ?_) (fun ⟨_, hnone, _⟩ => nomatch hnone)
      exact absurd (hvalid e rfl) (not_le.mpr (lt_of_lt_of_le hlt hle))
    | some moment => simp
  · intro now
    let r := h.registry.modify k fun v => { v with expiresAt := some (now.after grace) }
    have hdeprecate : h.registry.deprecateAt k now = .ok (r, now.after grace) :=
      deprecateAt_eq_ok_iff.mpr ⟨⟨v, hv⟩, by rw [hgrace], rfl⟩
    have houtcome : (Operation.deprecateAt k now).outcome h.registry = .ok (r, none) := by
      rw [Operation.outcome_deprecateAt, hdeprecate]
      rfl
    have hstep : (h.run [.deprecateAt k now]).registry = r := step_registry houtcome
    refine ⟨r, hdeprecate, fun t => ?_⟩
    rw [← hstep, isValidAt_run_iff hr hv, hgrace, deprecations, List.filterMap_cons]
    simp [Operation.deprecates?]

/-- A key that expires in second 10. -/
def sampleExpiring : KeyVersion := { sampleVersion 1 with expiresAt := some (.ofUnix 10) }

/-- **An expiry is not final**: a key that has expired in second 20, and would be expired in second
40, is trusted in second 40 after a deprecation in second 30 with a minute of grace. -/
theorem expired_key_valid_again :
    let h := (start 60).run [.register sampleExpiring]
    0 ≤ h.registry.grace.nanos
      ∧ Instant.ofUnix 20 ≤ .ofUnix 30 ∧ Instant.ofUnix 30 ≤ .ofUnix 40
      ∧ h.registry.isValidAt (sampleName 1) (.ofUnix 20) = false
      ∧ h.registry.isValidAt (sampleName 1) (.ofUnix 40) = false
      ∧ (h.run [.deprecateAt (sampleName 1) (.ofUnix 30)]).registry.isValidAt (sampleName 1)
        (.ofUnix 40) = true := by
  decide

/-- What happens to another key. -/
def sampleOthers : List Operation :=
  [.register (sampleVersion 2), .deprecateAt (sampleName 2) (.ofUnix 30)]

/-- Two deprecations of the key. -/
def sampleDeprecations : List Operation :=
  [.deprecateAt (sampleName 1) (.ofUnix 20), .deprecateAt (sampleName 1) (.ofUnix 30)]

/-- The expired key stays expired while another key comes and is deprecated, and is trusted up to
second 90 after its own deprecations in seconds 20 and 30. -/
theorem valid_again_iff_deprecated_sample :
    let h := (start 60).run [.register sampleExpiring]
    h.registry.isValidAt (sampleName 1) (.ofUnix 20) = false
      ∧ (h.run sampleOthers).registry.isValidAt (sampleName 1) (.ofUnix 40) ≠ true
      ∧ (h.run sampleDeprecations).registry.isValidAt (sampleName 1) (.ofUnix 90) = true
      ∧ ∃ r, h.registry.deprecateAt (sampleName 1) (.ofUnix 30) = .ok (r, .ofUnix 90)
        ∧ r.isValidAt (sampleName 1) (.ofUnix 91) ≠ true := by
  intro h
  have hv : h.registry.find? (sampleName 1) = some sampleExpiring := by decide
  obtain ⟨hrun, hstep⟩ := valid_again_iff_deprecated 60 [.register sampleExpiring] hv
  have hexpired : h.registry.isValidAt (sampleName 1) (.ofUnix 20) = false := by decide
  have hothers := hrun sampleOthers (.ofUnix 20) (.ofUnix 40) hexpired (by decide)
  have hown := hrun sampleDeprecations (.ofUnix 20) (.ofUnix 90) hexpired (by decide)
  obtain ⟨r, hr, hvalid⟩ := hstep (.ofUnix 30)
  refine ⟨hexpired, fun htrusted => ?_, hown.mpr ⟨.ofUnix 30, by decide, by decide⟩, r, hr,
    fun htrusted => ?_⟩
  · obtain ⟨moment, hlast, -⟩ := hothers.mp htrusted
    cases hlast
  · exact absurd ((hvalid _).mp htrusted) (by decide)

end History

end ProofLogin.KeyRegistry
