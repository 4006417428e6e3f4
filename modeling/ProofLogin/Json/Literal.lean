import ProofLogin.Encoding.Hex

/-!
# Json/Literal — strings between quotes

`literal` escapes the quote, the backslash and the control characters, and nothing else. `unescape?`
reads the octets between the quotes back: every escape that JSON has, where two surrogates together
stand for one character and one alone stands for none.
-/

namespace ProofLogin.Json

/-! ## Writing -/

/-- A code unit as an escape of four digits. -/
def escapeUnit (n : Nat) : List Char :=
  ['\\', 'u', Nat.digitChar (n / 4096), Nat.digitChar (n / 256 % 16), Nat.digitChar (n / 16 % 16),
    Nat.digitChar (n % 16)]

/-- A character as it stands between quotes. -/
def escape (c : Char) : List Char :=
  if c = '"' then ['\\', '"']
  else if c = '\\' then ['\\', '\\']
  else if c.toNat = 0x08 then ['\\', 'b']
  else if c.toNat = 0x09 then ['\\', 't']
  else if c.toNat = 0x0A then ['\\', 'n']
  else if c.toNat = 0x0C then ['\\', 'f']
  else if c.toNat = 0x0D then ['\\', 'r']
  else if c.toNat < 0x20 then escapeUnit c.toNat
  else [c]

/-- A character as it stands where only ASCII can; beyond the first plane two surrogates stand for
it. -/
def escapeAscii (c : Char) : List Char :=
  if c.toNat < 0x80 then [c]
  else if c.toNat < 0x10000 then escapeUnit c.toNat
  else escapeUnit (0xD800 + (c.toNat - 0x10000) / 0x400)
    ++ escapeUnit (0xDC00 + (c.toNat - 0x10000) % 0x400)

/-- **A text between quotes.** -/
def literal (s : String) : List Char :=
  '"' :: s.toList.flatMap escape ++ ['"']

/-! ## Reading -/

/-- The number that four digits spell. -/
def hex4? (a b c d : UInt8) : Option Nat := do
  let high := (← Hex.value? a) * 16 + (← Hex.value? b)
  let low := (← Hex.value? c) * 16 + (← Hex.value? d)
  return high * 256 + low

/-- The first half of a surrogate pair. -/
def isHighSurrogate (n : Nat) : Bool := 0xD800 ≤ n && n ≤ 0xDBFF

/-- The second half of a surrogate pair. -/
def isLowSurrogate (n : Nat) : Bool := 0xDC00 ≤ n && n ≤ 0xDFFF

/-- The character that a surrogate pair stands for. -/
def pairChar (high low : Nat) : Char :=
  Char.ofNat (0x10000 + (high - 0xD800) * 0x400 + (low - 0xDC00))

/-- The octet that a one-letter escape stands for. -/
def escaped? (b : UInt8) : Option UInt8 :=
  if b = 0x22 ∨ b = 0x5C ∨ b = 0x2F then some b
  else if b = 0x62 then some 0x08
  else if b = 0x66 then some 0x0C
  else if b = 0x6E then some 0x0A
  else if b = 0x72 then some 0x0D
  else if b = 0x74 then some 0x09
  else none

/-- What stands for one octet of the text, or for a half or the whole of one character. -/
inductive Piece where
  | octet (b : UInt8)
  | unit (n : Nat)
  deriving DecidableEq, Repr

/-- The pieces between two quotes. -/
def pieces? : Bytes → Option (List Piece)
  | [] => some []
  | b :: r =>
    if b = 0x5C then
      match r with
      | 0x75 :: a :: b :: c :: d :: r => do
        let n ← hex4? a b c d
        return .unit n :: (← pieces? r)
      | e :: r => do
        let b ← escaped? e
        return .octet b :: (← pieces? r)
      | [] => none
    else (pieces? r).map (.octet b :: ·)

/-- The octets of the pieces, where two halves of a character must meet. -/
def join? : List Piece → Option Bytes
  | [] => some []
  | .octet b :: r => (join? r).map (b :: ·)
  | .unit n :: r =>
    if isHighSurrogate n then
      match r with
      | .unit n' :: r =>
        if isLowSurrogate n' then (join? r).map (String.utf8EncodeChar (pairChar n n') ++ ·)
        else none
      | _ => none
    else if isLowSurrogate n then none
    else (join? r).map (String.utf8EncodeChar (Char.ofNat n) ++ ·)

/-- **The text that the octets between two quotes spell.** -/
def unescape? (bs : Bytes) : Option String :=
  ((pieces? bs).bind join?).bind Utf8.decode?

end ProofLogin.Json
