import ProofLogin.Bytes
import ProofLogin.Decimal.Binary64

/-!
# Json/Numeral — numbers as they are written

A number without fraction and exponent is an integer of any size, except that a negative zero is
none; every other number is a decimal. What a reader makes of a number depends on this spelling:
`1.0` is no integer.
-/

namespace ProofLogin.Json

/-- **A number as it is written**; a decimal is `± significand * 10 ^ exponent`. -/
inductive Numeral where
  | integer (n : Int)
  | decimal (negative : Bool) (significand : Nat) (exponent : Int)
  deriving DecidableEq, Repr

namespace Numeral

/-- A decimal digit. -/
def isDigit (b : UInt8) : Bool :=
  0x30 ≤ b && b ≤ 0x39

/-- The number that digits spell after `n`. -/
def digitsFrom (n : Nat) (ds : Bytes) : Nat :=
  ds.foldl (fun n d => 10 * n + (d.toNat - 0x30)) n

/-- The exponent part, which may be missing; it must be the end of the number. -/
def exponent? : Bytes → Option (Option Int)
  | [] => some none
  | e :: r =>
    let (negative, ds) : Bool × Bytes := match r with
      | 0x2B :: ds => (false, ds)
      | 0x2D :: ds => (true, ds)
      | ds => (false, ds)
    if (e = 0x65 ∨ e = 0x45) ∧ ds ≠ [] ∧ ds.all isDigit then
      some (some (if negative then -(digitsFrom 0 ds : Int) else digitsFrom 0 ds))
    else none

/-- The fraction digits, which may be missing, and what is after them. -/
def fraction? : Bytes → Option (Option Bytes × Bytes)
  | 0x2E :: r =>
    let ds := r.takeWhile isDigit
    if ds = [] then none else some (some ds, r.dropWhile isDigit)
  | r => some (none, r)

/-- A number without its sign. -/
def unsigned? (negative : Bool) (bs : Bytes) : Option Numeral := do
  let whole := bs.takeWhile isDigit
  if whole = [] ∨ (whole.head? = some 0x30 ∧ whole.length ≠ 1) then none
  else
    let (fraction, r) ← fraction? (bs.dropWhile isDigit)
    let exponent ← exponent? r
    let n := digitsFrom 0 whole
    match fraction, exponent with
    | none, none =>
      if negative then
        if n = 0 then some (.decimal true 0 0) else some (.integer (-n))
      else some (.integer n)
    | fraction, exponent =>
      let ds := fraction.getD []
      some (.decimal negative (digitsFrom n ds) (exponent.getD 0 - ds.length))

/-- **The number that a word spells.** -/
def ofWord? : Bytes → Option Numeral
  | 0x2D :: r => unsigned? true r
  | r => unsigned? false r

/-- The nearest binary value, if the number is not too large. -/
def toBinary64? : Numeral → Option Binary64
  | .integer n => Binary64.ofDecimal? (n < 0) n.natAbs 0
  | .decimal negative significand exponent => Binary64.ofDecimal? negative significand exponent

end Numeral

end ProofLogin.Json
