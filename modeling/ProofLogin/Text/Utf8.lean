import ProofLogin.Bytes

/-!
# Text/Utf8 — texts as octets

`encode` is the UTF-8 form of a text; `decode?` reads it back and refuses everything that is not
the shortest form of a scalar value: stray continuation octets, overlong forms, surrogates and
values past `10FFFF`.
-/

namespace ProofLogin.Utf8

/-- The UTF-8 octets of a text. -/
def encode (s : String) : Bytes :=
  s.toList.flatMap String.utf8EncodeChar

/-- The six payload bits of a continuation octet. -/
def tail? (b : UInt8) : Option Nat :=
  if 0x80 ≤ b.toNat ∧ b.toNat ≤ 0xBF then some (b.toNat - 0x80) else none

/-- The scalar value `n`, when it needs the number of octets it was written with. -/
def scalar? (least n : Nat) : Option Char :=
  if least ≤ n ∧ n.isValidChar then some (Char.ofNat n) else none

/-- The characters of an octet string, if it is well-formed. -/
def chars? : Bytes → Option (List Char)
  | [] => some []
  | a :: r =>
    let n := a.toNat
    if n ≤ 0x7F then (chars? r).map (Char.ofNat n :: ·)
    else match r with
      | [] => none
      | b :: r =>
        if n ≤ 0xDF then do
          let c ← scalar? 0x80 ((n - 0xC0) * 64 + (← tail? b))
          (chars? r).map (c :: ·)
        else match r with
          | [] => none
          | b' :: r =>
            if n ≤ 0xEF then do
              let c ← scalar? 0x800 (((n - 0xE0) * 64 + (← tail? b)) * 64 + (← tail? b'))
              (chars? r).map (c :: ·)
            else match r with
              | [] => none
              | b'' :: r => do
                let c ← scalar? 0x10000
                  ((((n - 0xF0) * 64 + (← tail? b)) * 64 + (← tail? b')) * 64 + (← tail? b''))
                (chars? r).map (c :: ·)

/-- The text that an octet string spells, if it is well-formed. -/
def decode? (bs : Bytes) : Option String :=
  (chars? bs).map String.ofList

end ProofLogin.Utf8
