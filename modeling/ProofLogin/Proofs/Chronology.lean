import Mathlib.Order.Defs.LinearOrder
import ProofLogin.Instant

/-!
# Proofs/Chronology — the order of moments, and how far they are apart

Moments are in a linear order, their seconds first.  The distance between two of them is the
difference of what they count, but where a leap second is among them: then it may be a second more
or less, so that the distance to a later moment can be the shorter one.  It is never shorter by more
than a second for the one moment and a second for the ends of the other distance
(`since_le_since_add`).
-/

namespace ProofLogin.Instant

variable {t t' e : Instant}

/-- **Moments come one after the other.** -/
instance : LinearOrder Instant where
  le_refl _ := le_iff.mpr (.inr ⟨rfl, Nat.le_refl _⟩)
  le_trans _ _ _ h h' := by rw [le_iff] at *; omega
  lt_iff_le_not_ge _ _ := by rw [lt_iff, le_iff, le_iff]; omega
  le_antisymm t u h h' := by
    rw [le_iff] at h h'
    obtain ⟨hseconds, hnanos⟩ : t.seconds = u.seconds ∧ t.nanos = u.nanos := by omega
    cases t
    cases u
    congr
  le_total _ _ := by rw [le_iff, le_iff]; omega
  toDecidableLE _ _ := inferInstanceAs (Decidable (_ ∨ _ ∧ _))
  toDecidableLT := inferInstance

/-! ## Distances -/

/-- **The distance is the difference, and a leap second**: where one begins the distance, it counts
if the other end is later in its day; where one ends it, it does not if the other end is later. -/
theorem since_cases (t u : Instant) : ∃ leap : Int,
    t.since u = (t.seconds - u.seconds + leap) * nanosPerSecond + ((t.nanos : Int) - u.nanos)
      ∧ (u.timeOfDay < t.timeOfDay ∧ leap = (u.nanos / nanosPerSecond : Nat)
        ∨ t.timeOfDay < u.timeOfDay ∧ leap = -(t.nanos / nanosPerSecond : Nat)
        ∨ t.timeOfDay = u.timeOfDay ∧ leap = 0) := by
  have hcount (t : Instant) :
      t.nanos / nanosPerSecond = if t.inLeapSecond then 1 else 0 := by
    have hnanos := t.nanos_lt
    split
    case isTrue h =>
      have hbegun : nanosPerSecond ≤ t.nanos := of_decide_eq_true h
      exact Nat.div_eq_of_lt_le (by rwa [Nat.one_mul]) hnanos
    case isFalse h =>
      have hplain : ¬nanosPerSecond ≤ t.nanos := fun hbegun => h (decide_eq_true hbegun)
      exact Nat.div_eq_of_lt (Nat.not_le.mp hplain)
  refine ⟨_, rfl, ?_⟩
  rw [hcount, hcount]
  split
  case isTrue hlt => exact .inl ⟨hlt, by split <;> rfl⟩
  case isFalse hle =>
    split
    case isTrue hlt => exact .inr (.inl ⟨hlt, by split <;> rfl⟩)
    case isFalse hge => exact .inr (.inr ⟨by omega, rfl⟩)

/-- **Away from leap seconds a moment is within so many seconds if it does not come after that many
seconds later.** -/
theorem since_le_iff (hleap : e.inLeapSecond = false) (hleap' : t.inLeapSecond = false)
    (seconds : Nat) : e.since t ≤ seconds * nanosPerSecond ↔
      e ≤ ⟨t.seconds + seconds, t.nanos, t.nanos_lt⟩ := by
  obtain ⟨leap, hsince, hcounts⟩ := since_cases e t
  rw [hsince, le_iff]
  clear hsince
  simp only [inLeapSecond, decide_eq_false_iff_not] at hleap hleap'
  rw [nanosPerSecond] at *
  simp only [timeOfDay, secondsPerDay] at hcounts ⊢
  omega

/-- **No distance is too long**: in milliseconds, each one between moments of the calendar fits into
64 bits. -/
theorem natAbs_since_le (he : inCalendar e.seconds = true)
    (ht : inCalendar t.seconds = true) :
    (e.since t).natAbs ≤ 0x7FFFFFFFFFFFFFFF / 1000 * nanosPerSecond := by
  obtain ⟨leap, hsince, hcounts⟩ := since_cases e t
  have hfirst : first.seconds = -8334601228800 := rfl
  have hlast : last.seconds = 8210266876799 := rfl
  simp only [inCalendar, hfirst, hlast, Bool.and_eq_true, decide_eq_true_eq] at he ht
  have hnanos := e.nanos_lt
  have hnanos' := t.nanos_lt
  rw [hsince]
  clear hsince
  rw [nanosPerSecond] at *
  omega

/-- By how much the distance to a moment `e` can exceed the distance to a later one: by a second if
`e` is in a leap second, and by a second if one of the ends of the other distance is. -/
def leapMargin (e t t' : Instant) : Int :=
  ((if e.inLeapSecond then 1 else 0) + if t.inLeapSecond || t'.inLeapSecond then 1 else 0)
    * nanosPerSecond

/-- **A later moment is farther away**, up to the margin. -/
theorem since_le_since_add (h : e ≤ t') : e.since t ≤ t'.since t + leapMargin e t t' := by
  obtain ⟨leap, hsince, hleap⟩ := since_cases e t
  obtain ⟨leap', hsince', hleap'⟩ := since_cases t' t
  rw [hsince, hsince', leapMargin]
  clear hsince hsince'
  have hnanos := e.nanos_lt
  have hnanos' := t.nanos_lt
  have hnanos'' := t'.nanos_lt
  rw [le_iff] at h
  simp only [inLeapSecond, Bool.or_eq_true, decide_eq_true_eq]
  rw [nanosPerSecond] at *
  simp only [timeOfDay, secondsPerDay] at hleap hleap'
  omega

end ProofLogin.Instant
