/-!
# Decimal/Binary64 — the finite values of the 64-bit binary format

A value is a sign, a significand below `2 ^ 53` and a power of two, so that every operation is
exact arithmetic on natural numbers. `Binary64.ofRatio?` rounds a quotient once, to the nearest
value and to the even one of two, and has no answer where the quotient is too large.
-/

namespace ProofLogin

/-- **A finite value**: `± significand * 2 ^ exponent`. -/
structure Binary64 where
  negative : Bool
  significand : Nat
  exponent : Int
  deriving DecidableEq, Repr

namespace Binary64

/-- The power of two of the subnormal values. -/
def leastExponent : Int := -1074

/-- The power of two of the largest values. -/
def greatestExponent : Int := 971

/-- The number of bits of a significand. -/
def precision : Nat := 53

/-- The value of `num / den` in units of `2 ^ e`, as a quotient again. -/
def scaled (num den : Nat) (e : Int) : Nat × Nat :=
  if 0 ≤ e then (num, den * Nat.pow 2 e.toNat) else (num * Nat.pow 2 (-e).toNat, den)

/-- The integer nearest to `num / den`, the even one of two. -/
def roundHalfEven (num den : Nat) : Nat :=
  let q := num / den
  let r := num % den
  if 2 * r < den then q
  else if den < 2 * r then q + 1
  else q + q % 2

/-- The integer `k` with `2 ^ k ≤ num / den < 2 ^ (k + 1)`. -/
def log2Ratio (num den : Nat) : Int :=
  let k : Int := (num.log2 : Int) - den.log2
  let (n, d) := scaled num den k
  if d ≤ n then k else k - 1

/-- **The nearest value to `± num / den`**, if it is not too large. -/
def ofRatio? (negative : Bool) (num den : Nat) : Option Binary64 :=
  if num = 0 then some ⟨negative, 0, leastExponent⟩
  else
    let e := max leastExponent (log2Ratio num den - (precision - 1))
    let (n, d) := scaled num den e
    let m := roundHalfEven n d
    let (m, e) := if m = Nat.pow 2 precision then (Nat.pow 2 (precision - 1), e + 1) else (m, e)
    if greatestExponent < e then none else some ⟨negative, m, e⟩

/-- The nearest value to `± significand * 10 ^ exponent`, if it is not too large. Powers far from
the range are not raised. -/
def ofDecimal? (negative : Bool) (significand : Nat) (exponent : Int) : Option Binary64 :=
  let digits : Int := ((Nat.toDigits 10 significand).length : Int)
  if significand = 0 ∨ digits + exponent < -400 then some ⟨negative, 0, leastExponent⟩
  else if 400 < digits + exponent then none
  else if 0 ≤ exponent then ofRatio? negative (significand * Nat.pow 10 exponent.toNat) 1
  else ofRatio? negative significand (Nat.pow 10 (-exponent).toNat)

end Binary64

end ProofLogin
