import ProofLogin.Instant

/-!
# Proofs/Calendar — every day has a date

    day of an era ──▸ century, leap cycle, year, day of the year ──▸ month, day of the month

`exists_date` goes through the arithmetic of `dateOfDays` along these lines.  Years begin in March,
so that the only irregular one of the 400 years, the 97 leap days and the lengths of the months are
each at the end of what they lengthen: a leap day is a day 365, and there is one in the last year of
a leap cycle unless that is the last cycle of a century that is not the last of its era.
-/

namespace ProofLogin.Instant

theorem isLeapYear_iff {y : Int} :
    isLeapYear y = true ↔ y % 4 = 0 ∧ (y % 100 ≠ 0 ∨ y % 400 = 0) := by
  simp [isLeapYear]

/-! ## Days of an era -/

/-- **A day of an era of 400 years**: the century that it is in, the leap cycle of four years, the
year of that cycle and the day of that year. -/
structure IsDayOfEra (n century cycle year day : Int) : Prop where
  century_mem : 0 ≤ century ∧ century ≤ 3
  cycle_mem : 0 ≤ cycle ∧ cycle ≤ 24
  year_mem : 0 ≤ year ∧ year ≤ 3
  day_mem : 0 ≤ day ∧ day ≤ 365
  leap : day = 365 → year = 3 ∧ (cycle = 24 → century = 3)
  eq : n = 36524 * century + 1461 * cycle + 365 * year + day

/-- The last century has a day more than the others, as has the last year of a cycle. -/
theorem exists_isDayOfEra {n : Int} (h : 0 ≤ n ∧ n < 146097) :
    ∃ c q r d, IsDayOfEra n c q r d := by
  obtain ⟨c, n', hc, hn, hn', hlast⟩ : ∃ c n' : Int, (0 ≤ c ∧ c ≤ 3) ∧ n = 36524 * c + n'
      ∧ (0 ≤ n' ∧ n' ≤ 36524) ∧ (n' = 36524 → c = 3) := by
    by_cases h3 : n < 3 * 36524
    · exact ⟨n / 36524, n % 36524, by omega, by omega, by omega, by omega⟩
    · exact ⟨3, n - 3 * 36524, by omega, by omega, by omega, by omega⟩
  obtain ⟨q, m, hq, hm, hm'⟩ : ∃ q m : Int, (0 ≤ q ∧ q ≤ 24) ∧ n' = 1461 * q + m
      ∧ (0 ≤ m ∧ m ≤ 1460) := ⟨n' / 1461, n' % 1461, by omega, by omega, by omega⟩
  obtain ⟨r, d, hr, hd, hd', hleap⟩ : ∃ r d : Int, (0 ≤ r ∧ r ≤ 3) ∧ m = 365 * r + d
      ∧ (0 ≤ d ∧ d ≤ 365) ∧ (d = 365 → r = 3) := by
    by_cases h3 : m < 3 * 365
    · exact ⟨m / 365, m % 365, by omega, by omega, by omega, by omega⟩
    · exact ⟨3, m - 3 * 365, by omega, by omega, by omega, by omega⟩
  exact ⟨c, q, r, d, hc, hq, hr, hd', by omega, by omega⟩

namespace IsDayOfEra

variable {n c q r d : Int}

/-- The year that `dateOfDays` finds. -/
theorem yearOfEra_eq (h : IsDayOfEra n c q r d) :
    (n - n / 1460 + n / 36524 - n / 146096) / 365 = 100 * c + 4 * q + r := by
  obtain ⟨hc, hq, hr, hd, hleap, rfl⟩ := h
  have hlast : 1461 * q + 365 * r + d ≤ 36523 ∨ c = 3 ∧ 1461 * q + 365 * r + d = 36524 := by omega
  have h1460 : (36524 * c + 1461 * q + 365 * r + d) / 1460
      = 25 * c + q + (24 * c + q + 365 * r + d) / 1460 := by omega
  obtain hlast | ⟨rfl, hlast⟩ := hlast
  · have h36524 : (36524 * c + 1461 * q + 365 * r + d) / 36524 = c := by omega
    have h146096 : (36524 * c + 1461 * q + 365 * r + d) / 146096 = 0 := by omega
    omega
  · omega

/-- The days before the year of a day, and the day in it. -/
theorem eq_yearOfEra (h : IsDayOfEra n c q r d) :
    n = 365 * (100 * c + 4 * q + r) + (100 * c + 4 * q + r) / 4 - (100 * c + 4 * q + r) / 100
      + d := by
  obtain ⟨hc, hq, hr, hd, hleap, heq⟩ := h
  have h4 : (100 * c + 4 * q + r) / 4 = 25 * c + q := by omega
  have h100 : (100 * c + 4 * q + r) / 100 = c := by omega
  rw [h4, h100]
  omega

/-- Only before the end of a leap year there is a leap day; the year after it has begun in
January. -/
theorem isLeapYear (h : IsDayOfEra n c q r d) (hd : d = 365) (era : Int) :
    isLeapYear (100 * c + 4 * q + r + era * 400 + 1) := by
  obtain ⟨rfl, hcentury⟩ := h.leap hd
  have hc := h.century_mem
  have hq := h.cycle_mem
  clear h
  rw [isLeapYear_iff]
  omega

end IsDayOfEra

/-! ## Days of a year from March -/

/-- **A day as a year from March and a day of it**: the era, the year in it, and what `dateOfDays`
computes of them. -/
structure IsMarchDate (days era year day : Int) : Prop where
  era_eq : (days + 719468) / 146097 = era
  yearOfEra_eq : ∀ n, n = days + 719468 - era * 146097 →
    (n - n / 1460 + n / 36524 - n / 146096) / 365 = year
  year_mem : 0 ≤ year ∧ year ≤ 399
  day_mem : 0 ≤ day ∧ day ≤ 365
  leap : day = 365 → isLeapYear (year + era * 400 + 1)
  eq : days + 719468 - era * 146097 = 365 * year + year / 4 - year / 100 + day

theorem exists_isMarchDate (days : Int) : ∃ era y d, IsMarchDate days era y d := by
  obtain ⟨c, q, r, d, h⟩ := exists_isDayOfEra
    (n := days + 719468 - (days + 719468) / 146097 * 146097) (by omega)
  have hyear : 0 ≤ 100 * c + 4 * q + r ∧ 100 * c + 4 * q + r ≤ 399 := by
    obtain ⟨hc, hq, hr, -, -, -⟩ := h
    omega
  exact ⟨_, 100 * c + 4 * q + r, d, rfl, fun n hn => hn ▸ h.yearOfEra_eq, hyear, h.day_mem,
    fun hd => h.isLeapYear hd _, h.eq_yearOfEra⟩

theorem dateOfDays_eq {days era y d : Int} (h : IsMarchDate days era y d) :
    dateOfDays days =
      let monthFromMarch := (5 * d + 2) / 153
      let month := if monthFromMarch < 10 then monthFromMarch + 3 else monthFromMarch - 9
      let year := y + era * 400
      (if month ≤ 2 then year + 1 else year, month.toNat,
        (d - (153 * monthFromMarch + 2) / 5 + 1).toNat) := by
  have hday : days + 719468 - era * 146097 - (365 * y + y / 4 - y / 100) = d := by
    have := h.eq
    omega
  rw [dateOfDays]
  simp only [h.era_eq, h.yearOfEra_eq _ rfl, hday]

theorem daysOfDate_eq {y : Int} (hy : 0 ≤ y ∧ y ≤ 399) (era : Int) (month day : Nat) :
    daysOfDate (if month ≤ 2 then y + era * 400 + 1 else y + era * 400) month day
      = era * 146097 + (365 * y + y / 4 - y / 100)
        + ((153 * (if month ≤ 2 then month + 9 else month - 3 : Int) + 2) / 5 + day - 1)
        - 719468 := by
  have hyear : (if month ≤ 2 then (if month ≤ 2 then y + era * 400 + 1 else y + era * 400) - 1
      else if month ≤ 2 then y + era * 400 + 1 else y + era * 400) = y + era * 400 := by
    split <;> omega
  have hera : (y + era * 400) / 400 = era := by omega
  rw [daysOfDate]
  simp only [hyear, hera, Int.add_sub_cancel]
  omega

/-- The months of a year from March have 30.6 days each, rounded. -/
theorem day_le_daysOfMonth {m d : Int} (hm : 0 ≤ m ∧ m ≤ 11) (hd : d ≤ 365)
    (hlength : 153 * m ≤ 5 * d + 2 ∧ 5 * d + 2 ≤ 153 * m + 152) {year : Int} {month : Nat}
    (hmonth : (if m < 10 then m + 3 else m - 9) = month) (hleap : d = 365 → isLeapYear year) :
    d - (153 * m + 2) / 5 + 1 ≤ daysOfMonth year month := by
  rw [daysOfMonth]
  split
  · by_cases h365 : d = 365
    · rw [if_pos (hleap h365)]
      omega
    · have hle : 28 ≤ if isLeapYear year then 29 else 28 := by split <;> omega
      omega
  · split <;> omega

/-! ## Dates -/

/-- **A date of the calendar.** -/
structure IsDate (year : Int) (month day : Nat) : Prop where
  month_mem : 1 ≤ month ∧ month ≤ 12
  day_mem : 1 ≤ day ∧ day ≤ daysOfMonth year month

/-- **Every day has a date**, and is the day of that date.  Years are counted from March: their leap
day is in February, of the year that begins in the January before. -/
theorem exists_date (days : Int) : ∃ year month day, dateOfDays days = (year, month, day)
    ∧ IsDate year month day ∧ daysOfDate year month day = days := by
  obtain ⟨era, y, d, h⟩ := exists_isMarchDate days
  have hdate := dateOfDays_eq h
  obtain ⟨-, -, hy, hd, hleap, heq⟩ := h
  have hm : 0 ≤ (5 * d + 2) / 153 ∧ (5 * d + 2) / 153 ≤ 11 := by omega
  have hlength : 153 * ((5 * d + 2) / 153) ≤ 5 * d + 2
      ∧ 5 * d + 2 ≤ 153 * ((5 * d + 2) / 153) + 152 := by omega
  generalize (5 * d + 2) / 153 = m at hdate hm hlength
  obtain ⟨month, hmonth⟩ : ∃ month : Nat, (if m < 10 then m + 3 else m - 9) = (month : Int) :=
    Int.eq_ofNat_of_zero_le (by omega)
  obtain ⟨day, hday⟩ : ∃ day : Nat, d - (153 * m + 2) / 5 + 1 = (day : Int) :=
    Int.eq_ofNat_of_zero_le (by omega)
  have hyear : (if (month : Int) ≤ 2 then y + era * 400 + 1 else y + era * 400)
      = if month ≤ 2 then y + era * 400 + 1 else y + era * 400 := by
    split <;> split <;> omega
  simp only [hmonth, hday, Int.toNat_natCast, hyear] at hdate
  have hleap' (h365 : d = 365) :
      isLeapYear (if month ≤ 2 then y + era * 400 + 1 else y + era * 400) := by
    rw [if_pos (by omega)]
    exact hleap h365
  refine ⟨_, month, day, hdate, ⟨by omega, by omega, ?_⟩, ?_⟩
  · have hle := day_le_daysOfMonth hm hd.2 hlength hmonth hleap'
    omega
  · rw [daysOfDate_eq hy]
    omega

theorem daysOfMonth_le (year : Int) (month : Nat) : daysOfMonth year month ≤ 31 := by
  rw [daysOfMonth]
  split
  · split <;> omega
  · split <;> omega

/-- The dates whose year has four digits are far from the ends of the calendar. -/
theorem daysOfDate_mem {year : Int} {month day : Nat} (hyear : 0 ≤ year ∧ year ≤ 9999)
    (h : IsDate year month day) :
    -800000 ≤ daysOfDate year month day ∧ daysOfDate year month day ≤ 3000000 := by
  have hmonth := h.month_mem
  have hday : 1 ≤ day ∧ day ≤ 31 :=
    ⟨h.day_mem.1, Nat.le_trans h.day_mem.2 (daysOfMonth_le year month)⟩
  rw [daysOfDate]
  generalize hy : (if month ≤ 2 then year - 1 else year) = y
  generalize hm : (if month ≤ 2 then (month : Int) + 9 else month - 3) = m
  have hy' : -1 ≤ y ∧ y ≤ 9999 := by omega
  have hm' : 0 ≤ m ∧ m ≤ 11 := by omega
  clear hy hm h
  omega

end ProofLogin.Instant
