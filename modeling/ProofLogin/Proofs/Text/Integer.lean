import Mathlib.Logic.Basic
import ProofLogin.Proofs.Outcome
import ProofLogin.Text.Integer

/-!
# Proofs/Text/Integer — which texts spell an integer of a range

    sign  digit ‥ digit  ──push‥push──▸  integer

An integer is read digit by digit, and each step looks whether the range is left.  Since a number
only grows away from zero, no step leaves the range unless the last one does
(`foldlM_push_eq_ok_iff`); so a text is read exactly if it is digits after a sign or none, and
spells a number of the range (`read_eq_ok_iff`).  There may be any number of zeros in front.
-/

namespace ProofLogin.Integer

/-- **A text spells an integer of a range**: it is ASCII digits, one of them at least, after a sign
or none.  A minus sign needs a range with negative numbers. -/
def Spells (least greatest : Int) (s : String) (n : Int) : Prop :=
  (least ≤ n ∧ n ≤ greatest) ∧ ∃ cs : List Char, cs ≠ [] ∧ (∀ c ∈ cs, c.isDigit = true)
    ∧ ((s.toList = cs ∨ s.toList = '+' :: cs) ∧ n = Nat.ofDigitChars 10 cs 0
      ∨ least < 0 ∧ s.toList = '-' :: cs ∧ n = -(Nat.ofDigitChars 10 cs 0 : Int))

variable {least greatest sign n : Int} {s : String} {cs : List Char}

/-! ## Digits -/

/-- Digits behind a number make it no smaller. -/
theorem le_ofDigitChars (cs : List Char) (k : Nat) : k ≤ Nat.ofDigitChars 10 cs k := by
  induction cs generalizing k with
  | nil => exact Nat.le_refl k
  | cons c cs ih =>
    rw [Nat.ofDigitChars_cons]
    exact Nat.le_trans (by omega) (ih _)

/-- **Digits are read exactly if the number that they spell is in the range.**  What has been read
so far lies between zero and the whole number, so that it is in the range as well. -/
theorem foldlM_push_eq_ok_iff (hsign : sign = 1 ∧ least ≤ 0 ∨ sign = -1 ∧ 0 ≤ greatest) {k : Nat}
    (hk : least ≤ sign * k ∧ sign * k ≤ greatest) :
    cs.foldlM (push least greatest sign) (sign * k) = .ok n ↔
      (∀ c ∈ cs, c.isDigit = true) ∧ n = sign * Nat.ofDigitChars 10 cs k
        ∧ least ≤ n ∧ n ≤ greatest := by
  induction cs generalizing k with
  | nil =>
    simp only [List.foldlM_nil, Outcome.pure_eq_ok, List.not_mem_nil, false_implies, implies_true,
      true_and, Nat.ofDigitChars_nil]
    exact ⟨fun h => h ▸ ⟨rfl, hk⟩, fun h => h.1.symm⟩
  | cons c cs ih =>
    have hpush : sign * k * 10 + sign * (c.toNat - '0'.toNat : Nat)
        = sign * (10 * k + (c.toNat - '0'.toNat) : Nat) := by
      rw [Int.natCast_add, Int.natCast_mul, Int.mul_add, Int.mul_assoc, Int.mul_comm (k : Int)]
      rfl
    rw [List.foldlM_cons, Outcome.bind_eq_ok, List.forall_mem_cons, Nat.ofDigitChars_cons]
    simp only [push, hpush]
    have hgrows := le_ofDigitChars cs (10 * k + (c.toNat - '0'.toNat))
    generalize 10 * k + (c.toNat - '0'.toNat) = k' at *
    constructor
    · rintro ⟨m, hm, hrest⟩
      obtain ⟨hdigit, hm⟩ := Outcome.ite_ok_eq_ok.mp hm
      obtain ⟨hhigh, hm⟩ := Outcome.ite_error_eq_ok.mp hm
      obtain ⟨hlow, hm⟩ := Outcome.ite_error_eq_ok.mp hm
      obtain rfl := Except.ok.inj hm
      obtain ⟨hdigits, h⟩ := (ih ⟨Int.not_lt.mp hlow, Int.not_lt.mp hhigh⟩).mp hrest
      exact ⟨⟨hdigit, hdigits⟩, h⟩
    · rintro ⟨⟨hdigit, hdigits⟩, hn, hrange⟩
      have hbetween : least ≤ sign * k' ∧ sign * k' ≤ greatest := by
        obtain ⟨rfl, hzero⟩ | ⟨rfl, hzero⟩ := hsign <;> omega
      refine ⟨sign * k', ?_, (ih hbetween).mpr ⟨hdigits, hn, hrange⟩⟩
      rw [if_pos hdigit, if_neg (Int.not_lt.mpr hbetween.2), if_neg (Int.not_lt.mpr hbetween.1)]

theorem readDigits_eq_ok_iff (hleast : least ≤ 0) (hgreatest : 0 ≤ greatest)
    (hsign : sign = 1 ∨ sign = -1) :
    readDigits least greatest sign cs = .ok n ↔
      cs ≠ [] ∧ (∀ c ∈ cs, c.isDigit = true) ∧ n = sign * Nat.ofDigitChars 10 cs 0
        ∧ least ≤ n ∧ n ≤ greatest := by
  cases cs with
  | nil => simp [readDigits]
  | cons c cs =>
    have hzero : (0 : Int) = sign * (0 : Nat) := (Int.mul_zero sign).symm
    rw [readDigits, hzero, and_iff_right (List.cons_ne_nil c cs)]
    exact foldlM_push_eq_ok_iff (hsign.imp (And.intro · hleast) (And.intro · hgreatest))
      (hzero ▸ ⟨hleast, hgreatest⟩)

/-! ## Texts -/

/-- **The texts that are read.** -/
theorem read_eq_ok_iff (hleast : least ≤ 0) (hgreatest : 0 ≤ greatest) :
    read least greatest s = .ok n ↔ Spells least greatest s n := by
  have hdigits (sign : Int) (hsign : sign = 1 ∨ sign = -1) (cs : List Char) :
      readDigits least greatest sign cs = .ok n ↔ _ :=
    readDigits_eq_ok_iff hleast hgreatest hsign
  have hplus : ¬ '+'.isDigit = true := by decide
  have hminus : ¬ '-'.isDigit = true := by decide
  rw [read, Spells]
  split
  case h_1 hs =>
    refine iff_of_false nofun ?_
    rintro ⟨-, cs, hne, -, ⟨h | h, -⟩ | ⟨-, h, -⟩⟩
    · exact hne (h.symm.trans hs)
    · cases h.symm.trans hs
    · cases h.symm.trans hs
  case h_2 ds hs =>
    rw [hdigits 1 (.inl rfl)]
    constructor
    · rintro ⟨hne, hds, hn, hrange⟩
      exact ⟨hrange, ds, hne, hds, .inl ⟨.inr hs, hn.trans (Int.one_mul _)⟩⟩
    · rintro ⟨hrange, cs, hne, hcs, ⟨h | h, hn⟩ | ⟨-, h, -⟩⟩
      · exact absurd (hcs '+' (h ▸ hs ▸ List.mem_cons_self)) hplus
      · obtain rfl := (List.cons.inj (h.symm.trans hs)).2
        exact ⟨hne, hcs, hn.trans (Int.one_mul _).symm, hrange⟩
      · cases h.symm.trans hs
  case h_3 ds hs =>
    rw [Outcome.ite_ok_eq_ok, hdigits (-1) (.inr rfl)]
    constructor
    · rintro ⟨hneg, hne, hds, hn, hrange⟩
      exact ⟨hrange, ds, hne, hds, .inr ⟨hneg, hs, hn.trans (Int.neg_one_mul _)⟩⟩
    · rintro ⟨hrange, cs, hne, hcs, ⟨h | h, -⟩ | ⟨hneg, h, hn⟩⟩
      · exact absurd (hcs '-' (h ▸ hs ▸ List.mem_cons_self)) hminus
      · cases h.symm.trans hs
      · obtain rfl := (List.cons.inj (h.symm.trans hs)).2
        exact ⟨hneg, hne, hcs, hn.trans (Int.neg_one_mul _).symm, hrange⟩
  case h_4 hnot₁ hnot₂ hnot₃ =>
    rw [hdigits 1 (.inl rfl)]
    constructor
    · rintro ⟨hne, hds, hn, hrange⟩
      exact ⟨hrange, s.toList, hne, hds, .inl ⟨.inl rfl, hn.trans (Int.one_mul _)⟩⟩
    · rintro ⟨hrange, cs, hne, hcs, ⟨h | h, hn⟩ | ⟨-, h, -⟩⟩
      · rw [h]
        exact ⟨hne, hcs, hn.trans (Int.one_mul _).symm, hrange⟩
      · exact absurd h (hnot₂ cs)
      · exact absurd h (hnot₃ cs)

/-! ## The types -/

/-- A text spells a 32-bit integer with sign. -/
def SpellsInt32 (s : String) (n : Int32) : Prop :=
  Spells (-0x80000000) 0x7FFFFFFF s n.toInt

/-- A text spells a 32-bit integer without sign. -/
def SpellsUInt32 (s : String) (n : UInt32) : Prop :=
  Spells 0 0xFFFFFFFF s n.toNat

/-- A text spells a 64-bit integer without sign. -/
def SpellsUInt64 (s : String) (n : UInt64) : Prop :=
  Spells 0 0xFFFFFFFFFFFFFFFF s n.toNat

theorem readInt32_eq_ok_iff {n : Int32} : readInt32 s = .ok n ↔ SpellsInt32 s n := by
  have hmin : Int32.minValue.toInt = -0x80000000 := rfl
  have hmax : Int32.maxValue.toInt = 0x7FFFFFFF := rfl
  rw [readInt32, hmin, hmax, Outcome.map_eq_ok, SpellsInt32]
  simp only [read_eq_ok_iff (by decide : (-0x80000000 : Int) ≤ 0)
    (by decide : (0 : Int) ≤ 0x7FFFFFFF)]
  constructor
  · rintro ⟨m, hm, rfl⟩
    rwa [Int32.toInt_ofInt_of_le hm.1.1 (Int.lt_of_le_of_lt hm.1.2 (by decide))]
  · exact fun h => ⟨_, h, n.ofInt_toInt⟩

theorem readUInt32_eq_ok_iff {n : UInt32} : readUInt32 s = .ok n ↔ SpellsUInt32 s n := by
  rw [readUInt32, Outcome.map_eq_ok, SpellsUInt32]
  simp only [read_eq_ok_iff (Int.le_refl 0) (by decide : (0 : Int) ≤ 0xFFFFFFFF)]
  constructor
  · rintro ⟨m, hm, rfl⟩
    obtain ⟨k, rfl⟩ := Int.eq_ofNat_of_zero_le hm.1.1
    have hlt : k < UInt32.size := Int.ofNat_lt.mp (Int.lt_of_le_of_lt hm.1.2 (by decide))
    rwa [Int.toNat_natCast, UInt32.toNat_ofNat_of_lt' hlt]
  · exact fun h => ⟨_, h, UInt32.ofNat_toNat⟩

theorem readUInt64_eq_ok_iff {n : UInt64} : readUInt64 s = .ok n ↔ SpellsUInt64 s n := by
  rw [readUInt64, Outcome.map_eq_ok, SpellsUInt64]
  simp only [read_eq_ok_iff (Int.le_refl 0) (by decide : (0 : Int) ≤ 0xFFFFFFFFFFFFFFFF)]
  constructor
  · rintro ⟨m, hm, rfl⟩
    obtain ⟨k, rfl⟩ := Int.eq_ofNat_of_zero_le hm.1.1
    have hlt : k < UInt64.size := Int.ofNat_lt.mp (Int.lt_of_le_of_lt hm.1.2 (by decide))
    rwa [Int.toNat_natCast, UInt64.toNat_ofNat_of_lt' hlt]
  · exact fun h => ⟨_, h, UInt64.ofNat_toNat⟩

end ProofLogin.Integer
