import ProofLogin.Commitment.Field
import ProofLogin.Encoding.Hex
import ProofLogin.Text.Blank

/-!
# Commitment/Salt — salts of commitments

A salt is at least eight octets. It is written in lower-case hexadecimal, and read in either case
with blanks around it.
-/

namespace ProofLogin

/-- **A salt.** -/
structure Salt where
  octets : Bytes
  le_length : 8 ≤ octets.length
  deriving DecidableEq

namespace Salt

@[ext] theorem ext {a b : Salt} (h : a.octets = b.octets) : a = b := by
  cases a
  cases b
  simpa using h

/-- A salt of 32 drawn octets. -/
def ofDraw (draw : Bytes32) : Salt :=
  ⟨draw.toBytes, by rw [draw.length_toBytes]; decide⟩

/-- **The text of a salt.** -/
def toHex (s : Salt) : String :=
  Hex.encode s.octets

/-- How a salt is shown in logs. -/
def inspect (s : Salt) : String :=
  "Salt(" ++ s.toHex ++ ")"

/-- **The salt that a text spells.** -/
def ofHex (s : String) : Except CommitmentError Salt :=
  match Hex.decode (Text.trim s) with
  | .error fault => .error (.saltDecode fault.message)
  | .ok bs =>
    if h : 8 ≤ bs.length then .ok ⟨bs, h⟩
    else .error (.saltDecode ("salt must be at least 8 bytes, got " ++ toString bs.length))

/-- The field element of the integer that a salt spells. -/
def toField (s : Salt) : FieldElement :=
  FieldElement.ofBytes s.octets

/-- A salt as a JSON value. -/
def toJson (s : Salt) : Json.Value :=
  .text s.toHex

/-- A salt from a JSON value. -/
def ofJson? (t : Json.Tree) : Option Salt := do
  (ofHex (← t.text?)).toOption

end Salt

end ProofLogin
