import ProofLogin.Decimal.Binary64

/-!
# Decimal/Shortest — the fewest digits that read back

Every decimal between the two halfway points around a value rounds to that value. `shortest` goes
through the decimal grids from the coarsest on, and looks at the two grid points around the value:
the first grid with a point between the halfway points gives the fewest digits, and the nearer
point gives the digits. `Binary64.toText` writes them in positional notation, without an exponent
and without a fraction where none is needed.
-/

namespace ProofLogin.Binary64

/-- A decimal number `significand * 10 ^ exponent`. -/
structure Decimal where
  significand : Nat
  exponent : Int
  deriving DecidableEq, Repr

/-- The greatest `k` with `10 ^ k ≤ num / den`, from an estimate that is at most one too large. -/
def log10Ratio (num den : Nat) : Int :=
  let k : Int := ((Nat.toDigits 10 num).length : Int) - (Nat.toDigits 10 den).length
  let reached := if 0 ≤ k then decide (den * Nat.pow 10 k.toNat ≤ num)
    else decide (den ≤ num * Nat.pow 10 (-k).toNat)
  if reached then k else k - 1

/-- **The decimals that round to a value**, as the quotients `low / den` and `high / den` around
`mid / den`; the ends belong to them when `closed`. -/
structure Neighbourhood where
  low : Nat
  mid : Nat
  high : Nat
  den : Nat
  closed : Bool

/-- The decimals that round to a value other than zero. Below a power of two the next value is
half as far away. -/
def neighbourhood (x : Binary64) : Neighbourhood :=
  let m := x.significand
  let below := if m = Nat.pow 2 (precision - 1) ∧ leastExponent < x.exponent then 1 else 2
  let up := if 0 ≤ x.exponent then Nat.pow 2 x.exponent.toNat else 1
  let den := if 0 ≤ x.exponent then 1 else Nat.pow 2 (-x.exponent).toNat
  ⟨(4 * m - below) * up, 4 * m * up, (4 * m + 2) * up, 4 * den, m % 2 == 0⟩

/-- The decimal of the grid `10 ^ k` that is nearest to the value, the larger of two, if one rounds
to it. -/
def Neighbourhood.onGrid (v : Neighbourhood) (k : Int) : Option Decimal :=
  let up := if 0 ≤ k then Nat.pow 10 k.toNat else 1
  let down := if 0 ≤ k then 1 else Nat.pow 10 (-k).toNat
  let (low, mid, high, unit) := (v.low * down, v.mid * down, v.high * down, v.den * up)
  let d := mid / unit
  let holds (n : Nat) : Bool :=
    if v.closed then low ≤ n * unit && n * unit ≤ high else low < n * unit && n * unit < high
  let lower := 0 < d && holds d
  let upper := holds (d + 1)
  if lower && (!upper || 2 * (mid - d * unit) < unit) then some ⟨d, k⟩
  else if upper then some ⟨d + 1, k⟩
  else none

/-- **The shortest decimal that reads back as the value**, which is not zero. The coarsest grid is
the one above the first digit, for values just below a power of ten; seventeen digits are always
enough. -/
def shortest (x : Binary64) : Decimal :=
  let v := x.neighbourhood
  let top := log10Ratio v.mid v.den
  ((List.range 18).findSome? fun (n : Nat) => v.onGrid (top + 1 - n)).getD ⟨v.mid / v.den, 0⟩

/-- The positional notation of a decimal. -/
def Decimal.toText (d : Decimal) : String :=
  let digits := Nat.toDigits 10 d.significand
  if 0 ≤ d.exponent then
    String.ofList (digits ++ List.replicate d.exponent.toNat '0')
  else
    let places := (-d.exponent).toNat
    let padded := List.replicate (places + 1 - digits.length) '0' ++ digits
    let (whole, fraction) := padded.splitAt (padded.length - places)
    String.ofList (whole ++ '.' :: fraction)

/-- **The text of a value**, a zero with its sign. -/
def toText (x : Binary64) : String :=
  let sign := if x.negative then "-" else ""
  sign ++ (if x.significand = 0 then "0" else x.shortest.toText)

end ProofLogin.Binary64
