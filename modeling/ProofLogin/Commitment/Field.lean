import ProofLogin.Bytes
import ProofLogin.Commitment.Error
import ProofLogin.Json.Record
import ProofLogin.Text.Quoted

/-!
# Commitment/Field — the integers modulo a prime

Commitments are integers modulo the order of the BN254 group. The text of one is its decimal digits,
and there is no other: a sign, a leading zero or a number past the modulus is refused, so that two
texts are equal exactly when the values are.
-/

namespace ProofLogin

/-- **The modulus**, the order of the BN254 group. -/
def fieldModulus : Nat :=
  21888242871839275222246405745257275088548364400416034343698204186575808495617

/-- **An integer modulo `fieldModulus`.** -/
structure FieldElement where
  val : Nat
  lt : val < fieldModulus
  deriving DecidableEq

namespace FieldElement

@[ext] theorem ext {a b : FieldElement} (h : a.val = b.val) : a = b := by
  cases a
  cases b
  simpa using h

/-- The element of a natural number. -/
def ofNat (n : Nat) : FieldElement :=
  ⟨n % fieldModulus, Nat.mod_lt _ (by decide)⟩

@[simp] theorem ofNat_val (a : FieldElement) : ofNat a.val = a := by
  ext
  exact Nat.mod_eq_of_lt a.lt

/-- The element of an integer; a negative one counts from the modulus down. -/
def ofInt (n : Int) : FieldElement :=
  ofNat (n % fieldModulus).toNat

/-- The element of the integer that octets spell. -/
def ofBytes (bs : Bytes) : FieldElement :=
  ofNat bs.toNat

/-- The sum. -/
def add (a b : FieldElement) : FieldElement := ofNat (a.val + b.val)

/-- The product. -/
def mul (a b : FieldElement) : FieldElement := ofNat (a.val * b.val)

instance : Add FieldElement := ⟨add⟩

instance : Mul FieldElement := ⟨mul⟩

/-- The 32 big-endian octets of an element. -/
def toBytes (a : FieldElement) : Bytes :=
  Bytes.ofNat 32 a.val

/-- Octets spell the element they are the spelling of. -/
@[simp] theorem ofBytes_toBytes (a : FieldElement) : ofBytes a.toBytes = a := by
  rw [ofBytes, toBytes, Bytes.toNat_ofNat (Nat.lt_trans a.lt (by decide)), ofNat_val]

/-- **The text of an element.** -/
def toDecimal (a : FieldElement) : String :=
  String.ofList (Nat.toDigits 10 a.val)

/-- How an element is shown in logs. -/
def inspect (a : FieldElement) : String :=
  "FieldElement(" ++ a.toDecimal ++ ")"

/-- **The element that a text spells**, if it is the text of one. -/
def ofDecimal (s : String) : Except CommitmentError FieldElement :=
  let cs := s.toList
  let n := Nat.ofDigitChars 10 cs 0
  if cs = [] ∨ cs.all Char.isDigit = false then
    .error (.commitmentParse ("not a decimal integer: " ++ Text.quoted s))
  else if cs.head? = some '0' ∧ cs.length ≠ 1 then
    .error (.commitmentParse ("not a field element: " ++ Text.quoted s))
  else if h : n < fieldModulus then .ok ⟨n, h⟩
  else .error (.commitmentParse ("non-canonical field element encoding: " ++ Text.quoted s))

/-- An element as a JSON value. -/
def toJson (a : FieldElement) : Json.Value :=
  .text a.toDecimal

/-- An element from a JSON value. -/
def ofJson? (t : Json.Tree) : Option FieldElement := do
  (ofDecimal (← t.text?)).toOption

end FieldElement

end ProofLogin
