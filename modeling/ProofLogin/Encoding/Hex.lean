import ProofLogin.Text.Quoted
import ProofLogin.Text.Utf8

/-!
# Encoding/Hex — octets as hexadecimal digits

`encode` writes two lower-case digits an octet. `decode` reads either case, and reports an odd
length before it looks at any digit.
-/

namespace ProofLogin.Hex

/-- Why a text is not hexadecimal. -/
inductive Fault where
  | oddLength
  | badDigit (octet : UInt8) (position : Nat)
  deriving DecidableEq, Repr

/-- The words of a fault; an octet that is no digit is shown as the character with its number. -/
def Fault.message : Fault → String
  | .oddLength => "Odd number of digits"
  | .badDigit b i =>
    "Invalid character " ++ Text.quotedChar (Char.ofNat b.toNat) ++ " at position " ++ toString i

/-- **The lower-case hexadecimal form of octets.** -/
def encode (bs : Bytes) : String :=
  String.ofList (bs.flatMap fun b =>
    [Nat.digitChar (b.toNat / 16), Nat.digitChar (b.toNat % 16)])

/-- The value of a digit of either case. -/
def value? (b : UInt8) : Option Nat :=
  let n := b.toNat
  if 0x30 ≤ n ∧ n ≤ 0x39 then some (n - 0x30)
  else if 0x61 ≤ n ∧ n ≤ 0x66 then some (n - 0x57)
  else if 0x41 ≤ n ∧ n ≤ 0x46 then some (n - 0x37)
  else none

/-- The value of a character that is a digit of either case. -/
def ofChar? (c : Char) : Option Nat :=
  if c.toNat < 128 then value? (UInt8.ofNat c.toNat) else none

/-- Pairs of digits, the first of them at position `i`. -/
def pairs (i : Nat) : Bytes → Except Fault Bytes
  | [] => .ok []
  | [_] => .error .oddLength
  | a :: b :: r =>
    match value? a with
    | none => .error (.badDigit a i)
    | some x => match value? b with
      | none => .error (.badDigit b (i + 1))
      | some y => (pairs (i + 2) r).map (UInt8.ofNat (x * 16 + y) :: ·)

/-- The octets that an octet string of digits spells. -/
def decodeBytes (ds : Bytes) : Except Fault Bytes :=
  if ds.length % 2 = 1 then .error .oddLength else pairs 0 ds

/-- **The octets that a text of digits spells.** -/
def decode (s : String) : Except Fault Bytes :=
  decodeBytes (Utf8.encode s)

end ProofLogin.Hex
