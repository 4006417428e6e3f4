import Mathlib.Algebra.Group.Nat.Defs
import ProofLogin.Proofs.Calendar
import ProofLogin.Proofs.Json.Record
import ProofLogin.Proofs.Text.Blank

/-!
# Proofs/Instant — a moment is read back from its text

    year '-' month '-' day 'T' hour ':' minute ':' second fraction 'Z'

Each reader takes off the front of a text what the writer of the same part has put there, and leaves
the rest (`digits?_padded`, `year?_yearChars`, `fraction?_fractionChars`).  `ofText?_toText` puts
them together for the moments of a year of four digits that are in no leap second: a leap second
that does not end its minute has the text of the second after it.
-/

namespace ProofLogin.Instant

/-! ## Digits -/

theorem isDigit_of_mem_padded {w n : Nat} : ∀ c ∈ padded w n, c.isDigit = true := by
  intro c hc
  rw [padded, List.mem_append] at hc
  rcases hc with hc | hc
  · rw [List.eq_of_mem_replicate hc]
    rfl
  · exact Nat.isDigit_of_mem_toDigits (by decide) (by decide) hc

theorem length_padded {w n : Nat} (hw : 0 < w) (h : n < 10 ^ w) : (padded w n).length = w := by
  have hlength := (Nat.length_toDigits_le_iff (by decide) hw).mpr h
  rw [padded, List.length_append, List.length_replicate]
  omega

theorem ofDigitChars_padded (w n : Nat) : Nat.ofDigitChars 10 (padded w n) 0 = n := by
  rw [padded, Nat.ofDigitChars_append, Nat.ofDigitChars_replicate_zero, Nat.mul_zero,
    Nat.ofDigitChars_ten_toDigits]

theorem exists_padded (w n : Nat) : ∃ c cs, padded w n = c :: cs ∧ c.isDigit = true := by
  have hne : padded w n ≠ [] := List.append_ne_nil_of_right_ne_nil _ Nat.toDigits_ne_nil
  obtain ⟨c, cs, hcs⟩ := List.exists_cons_of_ne_nil hne
  exact ⟨c, cs, hcs, isDigit_of_mem_padded c (hcs ▸ List.mem_cons_self)⟩

/-- A number of known width is read off the front. -/
theorem digits?_padded {w n : Nat} (hw : 0 < w) (h : n < 10 ^ w) (rest : List Char) :
    digits? w (padded w n ++ rest) = some (n, rest) := by
  have hlength := length_padded hw h
  have htake : ((padded w n ++ rest).take w).takeWhile Char.isDigit = padded w n := by
    rw [List.take_left' hlength, ← List.append_nil (padded w n),
      List.takeWhile_append_of_pos isDigit_of_mem_padded, List.takeWhile_nil]
  have hne : padded w n ≠ [] := by
    intro hnil
    rw [hnil] at hlength
    exact absurd hlength (by simp; omega)
  rw [digits?, htake, if_neg hne, ofDigitChars_padded, List.drop_left]

/-! ## The parts of a text -/

theorem skip_cons {c : Char} (h : Text.isBlank c = false) (cs : List Char) :
    skip (c :: cs) = c :: cs := by
  rw [skip, List.dropWhile_cons_of_neg]
  rw [h]
  exact Bool.false_ne_true

theorem skip_padded (w n : Nat) (rest : List Char) :
    skip (padded w n ++ rest) = padded w n ++ rest := by
  obtain ⟨c, cs, hcs, hdigit⟩ := exists_padded w n
  rw [hcs, List.cons_append, skip_cons (Text.isBlank_of_isDigit hdigit)]

theorem mark?_cons {c : Char} (h : Text.isBlank c = false) (cs : List Char) :
    mark? c (c :: cs) = some cs := by
  rw [mark?, skip_cons h, expect?, if_pos (beq_self_eq_true c)]

theorem number?_padded {least greatest n : Nat} (hn : least ≤ n ∧ n ≤ greatest)
    (hgreatest : greatest < 100) (rest : List Char) :
    number? least greatest (padded 2 n ++ rest) = some (n, rest) := by
  rw [number?, skip_padded, digits?_padded (by decide) (by omega)]
  exact if_pos hn

/-- A year of four digits begins with none of the signs. -/
theorem year?_yearChars {year : Int} (h : 0 ≤ year ∧ year ≤ 9999) (rest : List Char) :
    year? (yearChars year ++ rest) = some (year, rest) := by
  obtain ⟨n, rfl⟩ := Int.eq_ofNat_of_zero_le h.1
  have hchars : yearChars n = padded 4 n := by
    rw [yearChars, if_neg (by omega), if_neg (by omega), Int.natAbs_natCast]
  have hread := digits?_padded (w := 4) (n := n) (by decide) (by omega) rest
  obtain ⟨c, cs, hcs, hdigit⟩ := exists_padded 4 n
  rw [hchars, year?, skip_padded]
  rw [hcs, List.cons_append] at hread ⊢
  split
  case h_1 heq =>
    obtain ⟨rfl, -⟩ := List.cons.inj heq
    exact absurd hdigit (by decide)
  case h_2 heq =>
    obtain ⟨rfl, -⟩ := List.cons.inj heq
    exact absurd hdigit (by decide)
  case h_3 => rw [hread, Option.map_some]

/-- The digits that are left out are zeros. -/
theorem fraction?_padded {w k : Nat} (hw : 0 < w ∧ w ≤ 9) (hk : k < 10 ^ w) :
    fraction? ('.' :: padded w k ++ ['Z']) = some (k * 10 ^ (9 - w), ['Z']) := by
  have hlength := length_padded hw.1 hk
  have htake : (padded w k ++ ['Z']).takeWhile Char.isDigit = padded w k := by
    rw [List.takeWhile_append_of_pos isDigit_of_mem_padded, List.takeWhile_cons_of_neg (by decide),
      List.append_nil]
  have hdrop : (padded w k ++ ['Z']).dropWhile Char.isDigit = ['Z'] := by
    rw [List.dropWhile_append_of_pos isDigit_of_mem_padded, List.dropWhile_cons_of_neg (by decide)]
  have hne : padded w k ≠ [] := by
    obtain ⟨c, cs, hcs, -⟩ := exists_padded w k
    rw [hcs]
    exact List.cons_ne_nil c cs
  rw [List.cons_append, fraction?]
  simp only [htake, hdrop]
  rw [if_neg hne, List.take_of_length_le (by omega), Nat.ofDigitChars_append, ofDigitChars_padded,
    Nat.ofDigitChars_replicate_zero, hlength, Nat.mul_comm]

theorem fraction?_fractionChars {nanos : Nat} (h : nanos < nanosPerSecond) :
    fraction? (fractionChars nanos ++ ['Z']) = some (nanos, ['Z']) := by
  rw [nanosPerSecond] at h
  rw [fractionChars]
  split
  case isTrue h0 =>
    rw [h0]
    rfl
  split
  case isTrue h3 =>
    rw [fraction?_padded (by decide) (by omega)]
    exact congrArg (fun n => some (n, ['Z'])) (by omega)
  split
  case isTrue h6 =>
    rw [fraction?_padded (by decide) (by omega)]
    exact congrArg (fun n => some (n, ['Z'])) (by omega)
  case isFalse =>
    rw [fraction?_padded (by decide) (by omega)]
    exact congrArg (fun n => some (n, ['Z'])) (by omega)

/-! ## Moments -/

/-- The year of a moment. -/
def year (t : Instant) : Int :=
  (dateOfDays (t.seconds / secondsPerDay)).1

/-- **A moment of a year of four digits**, and of no leap second. -/
structure IsPlain (t : Instant) : Prop where
  year_mem : 0 ≤ t.year ∧ t.year ≤ 9999
  nanos_lt : t.nanos < nanosPerSecond

instance (t : Instant) : Decidable t.IsPlain :=
  decidable_of_iff ((0 ≤ t.year ∧ t.year ≤ 9999) ∧ t.nanos < nanosPerSecond)
    ⟨fun h => ⟨h.1, h.2⟩, fun h => ⟨h.year_mem, h.nanos_lt⟩⟩

theorem inCalendar_of_mem {seconds : Int}
    (h : -800000 ≤ seconds / secondsPerDay ∧ seconds / secondsPerDay ≤ 3000000) :
    inCalendar seconds = true := by
  have hfirst : first.seconds = -8334601228800 := rfl
  have hlast : last.seconds = 8210266876799 := rfl
  rw [secondsPerDay] at h
  rw [inCalendar, hfirst, hlast, Bool.and_eq_true, decide_eq_true_iff, decide_eq_true_iff]
  omega

/-- The characters of a date and a time of day are read as the moment then, which is in no leap
second: that would be the sixtieth of its minute. -/
theorem ofChars?_append {year : Int} {month day hour minute second nanos : Nat}
    (hyear : 0 ≤ year ∧ year ≤ 9999) (hdate : IsDate year month day) (hhour : hour < 24)
    (hminute : minute < 60) (hsecond : second < 60) (hnanos : nanos < nanosPerSecond)
    (hcalendar : inCalendar (secondsOfDate year month day hour minute second) = true) :
    ofChars? (yearChars year ++ '-' :: (padded 2 month ++ '-' :: (padded 2 day
        ++ 'T' :: (padded 2 hour ++ ':' :: (padded 2 minute ++ ':' :: (padded 2 second
          ++ (fractionChars nanos ++ ['Z'])))))))
      = some ⟨secondsOfDate year month day hour minute second, nanos, by
          rw [nanosPerSecond] at hnanos
          omega⟩ := by
  have hlt : nanos < 2000000000 := by
    rw [nanosPerSecond] at hnanos
    omega
  have hday : 1 ≤ day ∧ day ≤ 31 :=
    ⟨hdate.day_mem.1, Nat.le_trans hdate.day_mem.2 (daysOfMonth_le year month)⟩
  have hhyphen (cs) : mark? '-' ('-' :: cs) = some cs := mark?_cons (by decide) cs
  have hcolon (cs) : mark? ':' (':' :: cs) = some cs := mark?_cons (by decide) cs
  refine Option.bind_eq_some_iff.mpr ⟨_, year?_yearChars hyear _, ?_⟩
  refine Option.bind_eq_some_iff.mpr ⟨_, hhyphen _, ?_⟩
  refine Option.bind_eq_some_iff.mpr ⟨_, number?_padded hdate.month_mem (by decide) _, ?_⟩
  refine Option.bind_eq_some_iff.mpr ⟨_, hhyphen _, ?_⟩
  refine Option.bind_eq_some_iff.mpr ⟨_, number?_padded hday (by decide) _, ?_⟩
  refine Option.bind_eq_some_iff.mpr ⟨_, rfl, ?_⟩
  refine Option.bind_eq_some_iff.mpr ⟨_, number?_padded (by omega) (by decide) _, ?_⟩
  refine Option.bind_eq_some_iff.mpr ⟨_, hcolon _, ?_⟩
  refine Option.bind_eq_some_iff.mpr ⟨_, number?_padded (by omega) (by decide) _, ?_⟩
  refine Option.bind_eq_some_iff.mpr ⟨_, hcolon _, ?_⟩
  refine Option.bind_eq_some_iff.mpr ⟨_, number?_padded (by omega) (by decide) _, ?_⟩
  refine Option.bind_eq_some_iff.mpr ⟨_, fraction?_fractionChars hnanos, ?_⟩
  refine Option.bind_eq_some_iff.mpr ⟨(0, []), rfl, ?_⟩
  have hmin : min second 59 = second := by omega
  simp only [hmin, if_neg (Nat.ne_of_lt hsecond), Int.sub_zero]
  have hlimits : firstYear ≤ year ∧ year ≤ lastYear := by
    rw [firstYear, lastYear]
    omega
  rw [dif_pos hlt, if_pos ⟨rfl, hlimits.1, hlimits.2, hdate.day_mem.2, hcalendar⟩]

/-- **A moment is read back from its text.** -/
@[simp] theorem ofText?_toText {t : Instant} (h : t.IsPlain) : ofText? t.toText = some t := by
  obtain ⟨year, month, day, hdate, hisDate, hdays⟩ := exists_date (t.seconds / secondsPerDay)
  obtain ⟨hyear, hnanos⟩ := h
  rw [Instant.year, hdate] at hyear
  obtain ⟨s, hs, hlt⟩ : ∃ s : Nat, t.timeOfDay = s ∧ s < 86400 := by
    have hmod : t.timeOfDay = t.seconds % 86400 := rfl
    exact ⟨t.timeOfDay.toNat, by omega, by omega⟩
  have hchars : t.chars = yearChars year ++ '-' :: (padded 2 month ++ '-' :: (padded 2 day
      ++ 'T' :: (padded 2 (s / 3600) ++ ':' :: (padded 2 (s / 60 % 60) ++ ':' ::
        (padded 2 (s % 60) ++ (fractionChars t.nanos ++ ['Z'])))))) := by
    rw [chars, hdate, hs, Nat.div_eq_of_lt hnanos, Nat.mod_eq_of_lt hnanos]
    simp only [Int.toNat_natCast, Nat.add_zero, List.append_assoc, List.cons_append]
  have hseconds : secondsOfDate year month day (s / 3600) (s / 60 % 60) (s % 60) = t.seconds := by
    rw [timeOfDay, secondsPerDay] at hs
    rw [secondsOfDate, hdays, secondsPerDay]
    omega
  have hcalendar : inCalendar t.seconds = true :=
    inCalendar_of_mem (hdays ▸ daysOfDate_mem hyear hisDate)
  rw [ofText?, toText, String.toList_ofList, hchars, ofChars?_append hyear hisDate (by omega)
    (by omega) (by omega) hnanos (hseconds.symm ▸ hcalendar)]
  simp only [hseconds]

@[simp] theorem ofJson?_tree {t : Instant} (h : t.IsPlain) : ofJson? t.toJson.tree = some t := by
  rw [ofJson?, toJson, Json.Tree.text?_tree, Option.bind_eq_bind, Option.bind_some,
    ofText?_toText h]

end ProofLogin.Instant
