import ProofLogin.Encoding.Hex

/-!
# Token/Draw — what is drawn at random for a token

A draw is three numbers, and every number is a draw: the nonce takes 12 octets of the first, the
identifier 16 octets of the second, and the challenge lies between one and the greatest integer that
every JSON reader keeps exact.
-/

namespace ProofLogin

/-- **The random numbers of one token.** -/
structure Draw where
  nonce : Nat
  id : Nat
  challenge : Nat
  deriving DecidableEq, Repr

namespace Draw

/-- The greatest challenge. -/
def greatestChallenge : Nat := 0x1FFFFFFFFFFFFF

/-- The text of the nonce: 24 hexadecimal digits. -/
def nonceText (d : Draw) : String :=
  Hex.encode (Bytes.ofNat 12 d.nonce)

/-- The octets of the identifier, where version and variant are fixed. -/
def idBytes (d : Draw) : Bytes :=
  (Bytes.ofNat 16 d.id).zipIdx.map fun (b, i) =>
    if i = 6 then (b &&& 0x0F) ||| 0x40
    else if i = 8 then (b &&& 0x3F) ||| 0x80
    else b

/-- **The text of the identifier**: digits in groups of 8, 4, 4, 4 and 12. -/
def idText (d : Draw) : String :=
  let group (start count : Nat) := Hex.encode ((d.idBytes.drop start).take count)
  group 0 4 ++ "-" ++ group 4 2 ++ "-" ++ group 6 2 ++ "-" ++ group 8 2 ++ "-" ++ group 10 6

/-- The challenge. -/
def challengeNumber (d : Draw) : UInt64 :=
  UInt64.ofNat (d.challenge % greatestChallenge + 1)

theorem challengeNumber_bounds (d : Draw) :
    1 ≤ d.challengeNumber.toNat ∧ d.challengeNumber.toNat ≤ greatestChallenge := by
  have h : d.challenge % greatestChallenge < greatestChallenge := Nat.mod_lt _ (by decide)
  have h' : greatestChallenge < 0x10000000000000000 := by decide
  rw [challengeNumber, UInt64.toNat_ofNat_of_lt' (Nat.lt_of_le_of_lt h h')]
  omega

end Draw

end ProofLogin
