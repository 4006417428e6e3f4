/-!
# Text/Integer — integers typed by an operator

`Integer.read` accepts decimal digits after an optional plus sign, and after a minus sign where the
range holds negative numbers. It goes from left to right and reports the first thing wrong: a
character that is no digit, or a digit that leaves the range.
-/

namespace ProofLogin.Integer

/-- Why a text is not an integer of the range. -/
inductive Fault where
  | empty
  | badDigit
  | tooLarge
  | tooSmall
  deriving DecidableEq, Repr

/-- The words of a fault. -/
def Fault.message : Fault → String
  | .empty => "cannot parse integer from empty string"
  | .badDigit => "invalid digit found in string"
  | .tooLarge => "number too large to fit in target type"
  | .tooSmall => "number too small to fit in target type"

/-- One digit more on a number that grows away from zero in the direction of `sign`. -/
def push (least greatest sign n : Int) (c : Char) : Except Fault Int :=
  if c.isDigit then
    let n' := n * 10 + sign * (c.toNat - '0'.toNat : Nat)
    if greatest < n' then .error .tooLarge
    else if n' < least then .error .tooSmall
    else .ok n'
  else .error .badDigit

/-- Digits only, at least one. -/
def readDigits (least greatest sign : Int) : List Char → Except Fault Int
  | [] => .error .badDigit
  | c :: cs => (c :: cs).foldlM (push least greatest sign) 0

/-- **The integer that a text spells**, if it lies between `least` and `greatest`. -/
def read (least greatest : Int) (s : String) : Except Fault Int :=
  match s.toList with
  | [] => .error .empty
  | '+' :: cs => readDigits least greatest 1 cs
  | '-' :: cs =>
    if least < 0 then readDigits least greatest (-1) cs else .error .badDigit
  | cs => readDigits least greatest 1 cs

/-- A 32-bit integer with sign. -/
def readInt32 (s : String) : Except Fault Int32 :=
  (read Int32.minValue.toInt Int32.maxValue.toInt s).map Int32.ofInt

/-- A 64-bit integer with sign. -/
def readInt64 (s : String) : Except Fault Int64 :=
  (read Int64.minValue.toInt Int64.maxValue.toInt s).map Int64.ofInt

/-- A 32-bit integer without sign. -/
def readUInt32 (s : String) : Except Fault UInt32 :=
  (read 0 0xFFFFFFFF s).map fun n => UInt32.ofNat n.toNat

/-- A 64-bit integer without sign. -/
def readUInt64 (s : String) : Except Fault UInt64 :=
  (read 0 0xFFFFFFFFFFFFFFFF s).map fun n => UInt64.ofNat n.toNat

end ProofLogin.Integer
