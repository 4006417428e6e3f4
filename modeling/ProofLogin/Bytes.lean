/-!
# Bytes — octet strings and the integers they spell

`Bytes` is a plain list, so that every reader and printer of the library is a recursion on lists.
`Bytes.toNat` and `Bytes.ofNat` are the big-endian reading and spelling; `Bytes32` is the type of
digests, seeds and key fingerprints, whose length is part of the type.
-/

namespace ProofLogin

/-- An octet string. -/
abbrev Bytes := List UInt8

namespace Bytes

/-- **The big-endian integer** an octet string spells; the empty string spells zero. -/
def toNat (bs : Bytes) : Nat :=
  bs.foldl (fun n b => n * 256 + b.toNat) 0

/-- The last `width` big-endian octets of `n`. -/
def ofNat : (width n : Nat) → Bytes
  | 0, _ => []
  | width + 1, n => ofNat width (n / 256) ++ [UInt8.ofNat n]

/-- The first `width` little-endian octets of `n`. -/
def ofNatLE : (width n : Nat) → Bytes
  | 0, _ => []
  | width + 1, n => UInt8.ofNat n :: ofNatLE width (n / 256)

@[simp] theorem length_ofNat (width n : Nat) : (ofNat width n).length = width := by
  induction width generalizing n with
  | zero => rfl
  | succ width ih => simp [ofNat, ih]

@[simp] theorem length_ofNatLE (width n : Nat) : (ofNatLE width n).length = width := by
  induction width generalizing n with
  | zero => rfl
  | succ width ih => simp [ofNatLE, ih]

theorem toNat_append_singleton (bs : Bytes) (b : UInt8) :
    toNat (bs ++ [b]) = toNat bs * 256 + b.toNat := by
  simp [toNat]

/-- **Reading undoes spelling** for every integer that fits the width. -/
theorem toNat_ofNat {width n : Nat} (h : n < Nat.pow 256 width) : toNat (ofNat width n) = n := by
  induction width generalizing n with
  | zero =>
    have h0 : n < 1 := h
    have hn : n = 0 := by omega
    subst hn
    rfl
  | succ width ih =>
    have hq : n / 256 < Nat.pow 256 width := by
      have hpow : Nat.pow 256 (width + 1) = Nat.pow 256 width * 256 := rfl
      exact Nat.div_lt_of_lt_mul (by omega)
    rw [ofNat, toNat_append_singleton, ih hq, UInt8.toNat_ofNat']
    omega

/-- The exclusive or of two octet strings, as long as the shorter one. -/
def xor (as bs : Bytes) : Bytes :=
  as.zipWith (· ^^^ ·) bs

/-- The lexicographic order of octets, a proper prefix before what it begins. -/
def before : Bytes → Bytes → Bool
  | [], [] => false
  | [], _ :: _ => true
  | _ :: _, [] => false
  | a :: as, b :: bs => a < b || (a == b && before as bs)

/-- Octets come in the order of lists. -/
theorem before_iff {as bs : Bytes} : before as bs = true ↔ as < bs := by
  induction as generalizing bs with
  | nil => cases bs <;> simp [before]
  | cons a as ih => cases bs <;> simp [before, ih, List.cons_lt_cons_iff]

end Bytes

/-- **An octet string of length 32**: a digest, a seed, the name of a key. -/
structure Bytes32 where
  toBytes : Bytes
  length_toBytes : toBytes.length = 32
  deriving DecidableEq

namespace Bytes32

@[ext] theorem ext {a b : Bytes32} (h : a.toBytes = b.toBytes) : a = b := by
  cases a
  cases b
  simpa using h

/-- The octet string as a 32-octet value, when it has that length. -/
def ofBytes? (bs : Bytes) : Option Bytes32 :=
  if h : bs.length = 32 then some ⟨bs, h⟩ else none

@[simp] theorem ofBytes?_toBytes (a : Bytes32) : ofBytes? a.toBytes = some a := by
  simp [ofBytes?, a.length_toBytes]

theorem ofBytes?_eq_some {bs : Bytes} {a : Bytes32} : ofBytes? bs = some a ↔ bs = a.toBytes := by
  constructor
  · intro h
    unfold ofBytes? at h
    split at h
    · cases h
      rfl
    · cases h
  · rintro rfl
    exact ofBytes?_toBytes a

end Bytes32

end ProofLogin
