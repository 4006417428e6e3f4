import ProofLogin.Text.Utf8

/-!
# Encoding/Base64Url — octets as URL-safe letters

The alphabet of six-bit symbols with `-` and `_`, without padding. Every octet string has one
spelling: `decode` refuses padding, stray symbols, lengths that no octet string has, and last
symbols whose unused bits are not zero. Its faults come in a fixed order, which `decode` spells
out; offsets count octets from zero.
-/

namespace ProofLogin.Base64Url

/-- Why a text is no spelling. -/
inductive Fault where
  | badSymbol (octet : UInt8) (offset : Nat)
  | badLength (offset : Nat)
  | padding
  | badLastSymbol (octet : UInt8) (offset : Nat)
  deriving DecidableEq, Repr

/-- The words of a fault. -/
def Fault.message : Fault → String
  | .badSymbol b i => "Invalid symbol " ++ toString b.toNat ++ ", offset " ++ toString i ++ "."
  | .badLength i => "Invalid input length: " ++ toString i
  | .padding => "Invalid padding"
  | .badLastSymbol b i =>
    "Invalid last symbol " ++ toString b.toNat ++ ", offset " ++ toString i ++ "."

/-- The symbol of a value below 64, as an octet. -/
def symbol (n : Nat) : UInt8 :=
  UInt8.ofNat <|
    if n < 26 then n + 0x41
    else if n < 52 then n - 26 + 0x61
    else if n < 62 then n - 52 + 0x30
    else if n = 62 then 0x2D
    else 0x5F

/-- The value of a symbol. -/
def value? (b : UInt8) : Option Nat :=
  let n := b.toNat
  if 0x41 ≤ n ∧ n ≤ 0x5A then some (n - 0x41)
  else if 0x61 ≤ n ∧ n ≤ 0x7A then some (n - 0x61 + 26)
  else if 0x30 ≤ n ∧ n ≤ 0x39 then some (n - 0x30 + 52)
  else if n = 0x2D then some 62
  else if n = 0x5F then some 63
  else none

/-- The sign that pads a spelling elsewhere, `=`. -/
def padSign : UInt8 := 0x3D

/-- The symbols of an octet string: four for three octets, and two or three for the last one or
two. -/
def symbols : Bytes → Bytes
  | [] => []
  | [a] => [symbol (a.toNat / 4), symbol (a.toNat % 4 * 16)]
  | [a, b] =>
    let n := a.toNat * 256 + b.toNat
    [symbol (n / 1024), symbol (n / 16 % 64), symbol (n % 16 * 4)]
  | a :: b :: c :: r =>
    let n := (a.toNat * 256 + b.toNat) * 256 + c.toNat
    symbol (n / 262144) :: symbol (n / 4096 % 64) :: symbol (n / 64 % 64) :: symbol (n % 64)
      :: symbols r

/-- **The spelling of an octet string.** -/
def encode (bs : Bytes) : String :=
  String.ofList ((symbols bs).map fun b => Char.ofNat b.toNat)

/-- The value of the symbol at offset `i`. -/
def valueAt (i : Nat) (b : UInt8) : Except Fault Nat :=
  match value? b with
  | some n => .ok n
  | none => .error (.badSymbol b i)

/-- What has been seen of the last group: the symbols before any pad sign, and the offset of the
first pad sign. -/
structure LastGroup where
  symbols : List (UInt8 × Nat) := []
  pad : Option Nat := none

/-- One octet more of the last group, which begins at offset `start`. -/
def LastGroup.push (start : Nat) (g : LastGroup) (b : UInt8) (i : Nat) : Except Fault LastGroup :=
  if b = padSign then
    if i - start < 2 then .error (.badSymbol b i)
    else .ok { g with pad := some (g.pad.getD i) }
  else match g.pad with
    | some p => .error (.badSymbol padSign p)
    | none => match value? b with
      | some n => .ok { g with symbols := g.symbols ++ [(b, n)] }
      | none => .error (.badSymbol b i)

/-- The octets of a last group without pad signs, whose unused bits are zero. -/
def LastGroup.octets (start : Nat) : List (UInt8 × Nat) → Except Fault Bytes
  | [(_, a), (s, b)] =>
    if b % 16 = 0 then .ok [UInt8.ofNat (a * 4 + b / 16)]
    else .error (.badLastSymbol s (start + 1))
  | [(_, a), (_, b), (s, c)] =>
    if c % 4 = 0 then
      let n := (a * 64 + b) * 64 + c
      .ok [UInt8.ofNat (n / 1024), UInt8.ofNat (n / 4)]
    else .error (.badLastSymbol s (start + 2))
  | [(_, a), (_, b), (_, c), (_, d)] =>
    let n := ((a * 64 + b) * 64 + c) * 64 + d
    .ok [UInt8.ofNat (n / 65536), UInt8.ofNat (n / 256), UInt8.ofNat n]
  | gs => .error (.badLength (start + gs.length))

/-- The last group, of one to four octets: symbols first, then the length, then padding, then the
unused bits. -/
def decodeLast (start : Nat) (bs : Bytes) : Except Fault Bytes := do
  let g ← (bs.zipIdx start).foldlM (fun g (b, i) => g.push start b i) (LastGroup.mk [] none)
  if g.symbols.length < 2 then .error (.badLength (start + g.symbols.length))
  else if g.pad.isSome then .error .padding
  else LastGroup.octets start g.symbols

/-- Groups of four, the first of them at offset `i`; the last group may be shorter. -/
def decodeFrom (i : Nat) : Bytes → Except Fault Bytes
  | a :: b :: c :: d :: e :: r => do
    let w ← valueAt i a
    let x ← valueAt (i + 1) b
    let y ← valueAt (i + 2) c
    let z ← valueAt (i + 3) d
    let n := ((w * 64 + x) * 64 + y) * 64 + z
    let rest ← decodeFrom (i + 4) (e :: r)
    return UInt8.ofNat (n / 65536) :: UInt8.ofNat (n / 256) :: UInt8.ofNat n :: rest
  | [] => .ok []
  | bs => decodeLast i bs

/-- The octets that an octet string of symbols spells. A lone octet after whole groups is looked at
before all others. -/
def decodeBytes (bs : Bytes) : Except Fault Bytes :=
  match bs.getLast? with
  | none => .ok []
  | some b =>
    if bs.length % 4 = 1 ∧ b ≠ padSign ∧ value? b = none then .error (.badSymbol b (bs.length - 1))
    else decodeFrom 0 bs

/-- **The octets that a text spells.** -/
def decode (s : String) : Except Fault Bytes :=
  decodeBytes (Utf8.encode s)

end ProofLogin.Base64Url
