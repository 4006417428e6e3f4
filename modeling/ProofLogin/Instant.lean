import ProofLogin.Json.Record
import ProofLogin.Text.Blank

/-!
# Instant — moments of the calendar

A moment is a second since the beginning of 1970 and the nanoseconds that have passed in it. A leap
second has no number of its own: it is the second billion of nanoseconds of the second before it, so
that moments are ordered by their seconds first and by their nanoseconds then. The calendar ends
with the years -262143 and 262142: a clock past them reads as 1970, and a sum past them is the last
moment.

The text of a moment has the fewest of 0, 3, 6 and 9 fraction digits that are exact, and four digits
of the year, or a sign and as many as are needed. It is read with `Z`, with `UTC` or with an offset,
with any number of fraction digits, of which nine count, and with blanks around its numbers.
-/

namespace ProofLogin

/-- **A moment**: the seconds since the beginning of 1970, and the nanoseconds after them, which are
a billion and more inside of a leap second. -/
structure Instant where
  seconds : Int
  nanos : Nat
  nanos_lt : nanos < 2000000000 := by omega
  deriving DecidableEq

namespace Instant

/-! ## Days and dates -/

/-- The days from the beginning of 1970 to a date. Years are counted from March, so that the leap
day is the last of its year, in eras of 400 years. -/
def daysOfDate (year : Int) (month day : Nat) : Int :=
  let y := if month ≤ 2 then year - 1 else year
  let era := y / 400
  let yearOfEra := y - era * 400
  let monthFromMarch : Int := if month ≤ 2 then month + 9 else month - 3
  let dayOfYear : Int := (153 * monthFromMarch + 2) / 5 + day - 1
  let dayOfEra := yearOfEra * 365 + yearOfEra / 4 - yearOfEra / 100 + dayOfYear
  era * 146097 + dayOfEra - 719468

/-- The year, month and day of a number of days from the beginning of 1970. -/
def dateOfDays (days : Int) : Int × Nat × Nat :=
  let z := days + 719468
  let era := z / 146097
  let dayOfEra := z - era * 146097
  let yearOfEra := (dayOfEra - dayOfEra / 1460 + dayOfEra / 36524 - dayOfEra / 146096) / 365
  let dayOfYear := dayOfEra - (365 * yearOfEra + yearOfEra / 4 - yearOfEra / 100)
  let monthFromMarch := (5 * dayOfYear + 2) / 153
  let day := dayOfYear - (153 * monthFromMarch + 2) / 5 + 1
  let month := if monthFromMarch < 10 then monthFromMarch + 3 else monthFromMarch - 9
  let year := yearOfEra + era * 400
  (if month ≤ 2 then year + 1 else year, month.toNat, day.toNat)

/-- A year with a leap day. -/
def isLeapYear (year : Int) : Bool :=
  year % 4 == 0 && (year % 100 != 0 || year % 400 == 0)

/-- The number of days of a month. -/
def daysOfMonth (year : Int) (month : Nat) : Nat :=
  if month = 2 then if isLeapYear year then 29 else 28
  else if month = 4 ∨ month = 6 ∨ month = 9 ∨ month = 11 then 30
  else 31

/-! ## Moments -/

/-- The nanoseconds of a second. -/
def nanosPerSecond : Nat := 1000000000

/-- The seconds of a day. -/
def secondsPerDay : Int := 86400

end Instant

/-- **A span of time**, forward or back. A number stands for as many seconds. -/
structure Period where
  nanos : Int
  deriving DecidableEq, Repr

namespace Period

/-- A number of seconds. -/
def ofSeconds (n : Nat) : Period := ⟨n * Instant.nanosPerSecond⟩

instance : Coe Nat Period := ⟨ofSeconds⟩

instance (n : Nat) : OfNat Period n := ⟨ofSeconds n⟩

/-- The whole seconds, rounded down. -/
def seconds (p : Period) : Int := p.nanos / Instant.nanosPerSecond

/-- How a span is shown in logs. -/
def inspect (p : Period) : String :=
  "TimeDelta \x7b secs: " ++ toString p.seconds ++ ", nanos: "
    ++ toString (p.nanos % Instant.nanosPerSecond) ++ " \x7d"

end Period

namespace Instant

/-- The seconds since the beginning of 1970 on a date and at a time of day. -/
def secondsOfDate (year : Int) (month day hour minute second : Nat) : Int :=
  daysOfDate year month day * secondsPerDay + hour * 3600 + minute * 60 + second

/-- The first year of the calendar. -/
def firstYear : Int := -262143

/-- The last year of the calendar. -/
def lastYear : Int := 262142

/-- The beginning of 1970. -/
def epoch : Instant := ⟨0, 0, by omega⟩

/-- The first moment of the calendar. -/
def first : Instant := ⟨secondsOfDate firstYear 1 1 0 0 0, 0, by omega⟩

/-- The last moment of the calendar. -/
def last : Instant := ⟨secondsOfDate lastYear 12 31 23 59 59, 999999999, by omega⟩

/-- A second of the calendar. -/
def inCalendar (seconds : Int) : Bool :=
  first.seconds ≤ seconds && seconds ≤ last.seconds

/-- A moment comes before the moments of later seconds and before the later ones of its second. -/
instance : LT Instant where
  lt t u := t.seconds < u.seconds ∨ t.seconds = u.seconds ∧ t.nanos < u.nanos

instance : LE Instant where
  le t u := t.seconds < u.seconds ∨ t.seconds = u.seconds ∧ t.nanos ≤ u.nanos

instance (t u : Instant) : Decidable (t < u) :=
  inferInstanceAs (Decidable (_ ∨ _ ∧ _))

theorem lt_iff {t u : Instant} :
    t < u ↔ t.seconds < u.seconds ∨ t.seconds = u.seconds ∧ t.nanos < u.nanos :=
  .rfl

theorem le_iff {t u : Instant} :
    t ≤ u ↔ t.seconds < u.seconds ∨ t.seconds = u.seconds ∧ t.nanos ≤ u.nanos :=
  .rfl

theorem not_lt {t u : Instant} : ¬u < t ↔ t ≤ u := by
  rw [lt_iff, le_iff]
  omega

/-- **The moment that a clock shows**, which counts seconds; the epoch where there is none. -/
def ofUnix (seconds : Int64) : Instant :=
  if inCalendar seconds.toInt then ⟨seconds.toInt, 0, by omega⟩ else epoch

/-- The whole seconds since the epoch. -/
def toUnix (t : Instant) : Int :=
  t.seconds

/-- The moment is inside of a leap second. -/
def inLeapSecond (t : Instant) : Bool :=
  nanosPerSecond ≤ t.nanos

/-- The seconds since midnight. -/
def timeOfDay (t : Instant) : Int :=
  t.seconds % secondsPerDay

/-- **The moment a period later**, if the calendar has it. A leap second is stayed in where the
period does not lead out of it, left for the second that it belongs to where it leads forward, and
counted where it leads back. -/
def plus? (t : Instant) (p : Period) : Option Instant :=
  if h : t.inLeapSecond ∧ -nanosPerSecond < p.nanos ∧ t.nanos + p.nanos < 2000000000 then
    some ⟨t.seconds, (t.nanos + p.nanos).toNat, by omega⟩
  else
    let left : Int := if t.inLeapSecond ∧ 0 < p.nanos then nanosPerSecond else 0
    let n := t.seconds * nanosPerSecond + t.nanos - left + p.nanos
    if inCalendar (n / nanosPerSecond) then
      some ⟨n / nanosPerSecond, (n % nanosPerSecond).toNat, by unfold nanosPerSecond; omega⟩
    else none

/-- The moment a period later; the last one where the calendar has none. -/
def after (t : Instant) (p : Period) : Instant :=
  (t.plus? p).getD last

/-- **The nanoseconds from `u` to `t`.** Leap seconds are counted as on a single day: when the later
time of day comes, the leap second of the earlier one is over. -/
def since (t u : Instant) : Int :=
  let leap : Int :=
    if u.timeOfDay < t.timeOfDay then if u.inLeapSecond then 1 else 0
    else if t.timeOfDay < u.timeOfDay then if t.inLeapSecond then -1 else 0
    else 0
  (t.seconds - u.seconds + leap) * nanosPerSecond + ((t.nanos : Int) - u.nanos)

/-! ## Writing -/

/-- `n` in decimal with at least `width` digits. -/
def padded (width n : Nat) : List Char :=
  let ds := Nat.toDigits 10 n
  List.replicate (width - ds.length) '0' ++ ds

/-- A year: four digits, or a sign and at least four. -/
def yearChars (year : Int) : List Char :=
  if year < 0 then '-' :: padded 4 year.natAbs
  else if 9999 < year then '+' :: padded 4 year.natAbs
  else padded 4 year.natAbs

/-- The fewest fraction digits that are exact. -/
def fractionChars (nanos : Nat) : List Char :=
  if nanos = 0 then []
  else if nanos % 1000000 = 0 then '.' :: padded 3 (nanos / 1000000)
  else if nanos % 1000 = 0 then '.' :: padded 6 (nanos / 1000)
  else '.' :: padded 9 nanos

/-- The characters of a moment. A leap second is the sixtieth second of its minute. -/
def chars (t : Instant) : List Char :=
  let (year, month, day) := dateOfDays (t.seconds / secondsPerDay)
  let s := t.timeOfDay.toNat
  yearChars year ++ '-' :: padded 2 month ++ '-' :: padded 2 day
    ++ 'T' :: padded 2 (s / 3600) ++ ':' :: padded 2 (s / 60 % 60)
    ++ ':' :: padded 2 (s % 60 + t.nanos / nanosPerSecond)
    ++ fractionChars (t.nanos % nanosPerSecond) ++ ['Z']

/-- **The text of a moment.** -/
def toText (t : Instant) : String :=
  String.ofList t.chars

/-! ## Reading -/

/-- What is after the blanks. -/
def skip (cs : List Char) : List Char :=
  cs.dropWhile Text.isBlank

/-- The number that the digits at the beginning spell, at least one of them and at most `most`, and
what is after them. -/
def digits? (most : Nat) (cs : List Char) : Option (Nat × List Char) :=
  let ds := (cs.take most).takeWhile Char.isDigit
  if ds = [] then none else some (Nat.ofDigitChars 10 ds 0, cs.drop ds.length)

/-- A number of at most two digits between two others, after blanks. -/
def number? (least greatest : Nat) (cs : List Char) : Option (Nat × List Char) := do
  let (n, cs) ← digits? 2 (skip cs)
  if least ≤ n ∧ n ≤ greatest then some (n, cs) else none

/-- What is after a character that must come first. -/
def expect? (p : Char → Bool) : List Char → Option (List Char)
  | c :: cs => if p c then some cs else none
  | [] => none

/-- What is after a mark that must come first, after blanks. -/
def mark? (mark : Char) (cs : List Char) : Option (List Char) :=
  expect? (· == mark) (skip cs)

/-- The year at the beginning: at most four digits, or a sign and any number of them. -/
def year? (cs : List Char) : Option (Int × List Char) :=
  match skip cs with
  | '+' :: cs => (digits? cs.length cs).map fun (n, cs) => ((n : Int), cs)
  | '-' :: cs => (digits? cs.length cs).map fun (n, cs) => (-(n : Int), cs)
  | cs => (digits? 4 cs).map fun (n, cs) => ((n : Int), cs)

/-- The nanoseconds of the fraction, which may be missing, and what is after it. -/
def fraction? : List Char → Option (Nat × List Char)
  | '.' :: cs =>
    let ds := cs.takeWhile Char.isDigit
    if ds = [] then none
    else
      let nine := ds.take 9 ++ List.replicate (9 - ds.length) '0'
      some (Nat.ofDigitChars 10 nine 0, cs.dropWhile Char.isDigit)
  | cs => some (0, cs)

/-- The number that two digits spell. -/
def pair? (c c' : Char) : Option Nat :=
  if c.isDigit ∧ c'.isDigit then some (Nat.ofDigitChars 10 [c, c'] 0) else none

/-- The hours and minutes of an offset, in seconds, and what is after them. Colons and blanks may
stand between them. -/
def hoursAndMinutes? : List Char → Option (Int × List Char)
  | h :: h' :: cs =>
    match cs.dropWhile fun c => c == ':' || Text.isBlank c with
    | m :: m' :: cs => do
      let hours ← pair? h h'
      let minutes ← pair? m m'
      if hours < 24 ∧ minutes < 60 then some (hours * 3600 + minutes * 60, cs) else none
    | _ => none
  | _ => none

/-- The seconds by which the clock at the place of the text is ahead, and what is after them. -/
def offset? : List Char → Option (Int × List Char)
  | 'Z' :: cs => some (0, cs)
  | 'z' :: cs => some (0, cs)
  | '+' :: cs => hoursAndMinutes? cs
  | '-' :: cs => (hoursAndMinutes? cs).map fun (n, cs) => (-n, cs)
  | '\u2212' :: cs => (hoursAndMinutes? cs).map fun (n, cs) => (-n, cs)
  | u :: t :: c :: cs =>
    if [u, t, c].map Char.toUpper = ['U', 'T', 'C'] then some (0, cs) else none
  | _ => none

/-- **The moment that characters spell**: the date at the place of the text and the moment itself
have to be in the calendar. -/
def ofChars? (cs : List Char) : Option Instant := do
  let (year, cs) ← year? cs
  let cs ← mark? '-' cs
  let (month, cs) ← number? 1 12 cs
  let cs ← mark? '-' cs
  let (day, cs) ← number? 1 31 cs
  let cs ← expect? (fun c => c == 'T' || c == 't' || c == ' ') cs
  let (hour, cs) ← number? 0 23 cs
  let cs ← mark? ':' cs
  let (minute, cs) ← number? 0 59 cs
  let cs ← mark? ':' cs
  let (second, cs) ← number? 0 60 cs
  let (nanos, cs) ← fraction? cs
  let (offset, cs) ← offset? (skip cs)
  let seconds := secondsOfDate year month day hour minute (min second 59) - offset
  let nanos := if second = 60 then nanosPerSecond + nanos else nanos
  if h : nanos < 2000000000 then
    if skip cs = [] ∧ firstYear ≤ year ∧ year ≤ lastYear ∧ day ≤ daysOfMonth year month
        ∧ inCalendar seconds then
      some ⟨seconds, nanos, h⟩
    else none
  else none

/-- **The moment that a text spells.** -/
def ofText? (s : String) : Option Instant :=
  ofChars? s.toList

/-- A moment as a JSON value. -/
def toJson (t : Instant) : Json.Value :=
  .text t.toText

/-- A moment from a JSON value. -/
def ofJson? (t : Json.Tree) : Option Instant := do
  ofText? (← t.text?)

end Instant

end ProofLogin
