import Mathlib.Algebra.Group.Nat.Defs
import Mathlib.Tactic.SplitIfs
import ProofLogin.Proofs.Text.Utf8

/-!
# Proofs/Text/Order — texts in the order of what they are encoded as

A code writes each character as some units.  Where two characters always differ before either of
them ends, the order of encoded texts is seen on the first two characters that differ, and there it
is the order of their ranks (`CharCode.append_lt_append_iff`).  UTF-8 ranks characters as they are
numbered; UTF-16 has those beyond the first plane stand before the last ones of that plane.
-/

namespace ProofLogin

/-! ## Codes -/

section Precedes

variable {α : Type} [LT α]

/-- **The first of two lists comes before the second one at a place that both of them have.** -/
def Precedes : List α → List α → Prop
  | x :: xs, y :: ys => x < y ∨ x = y ∧ Precedes xs ys
  | _, _ => False

instance decidablePrecedes [DecidableEq α] [DecidableLT α] :
    (xs ys : List α) → Decidable (Precedes xs ys)
  | x :: xs, y :: ys =>
    have := decidablePrecedes xs ys
    inferInstanceAs (Decidable (x < y ∨ x = y ∧ Precedes xs ys))
  | [], _ | _ :: _, [] => .isFalse id

/-- Whatever follows does not matter. -/
theorem Precedes.append_lt_append {xs ys : List α} (h : Precedes xs ys) (s t : List α) :
    xs ++ s < ys ++ t := by
  induction xs generalizing ys with
  | nil => exact h.elim
  | cons x xs ih =>
    cases ys with
    | nil => exact h.elim
    | cons y ys => exact List.cons_lt_cons_iff.mpr (h.imp_right fun h => ⟨h.1, ih h.2⟩)

/-- Where one of two lists is a single item, that item is all that matters. -/
theorem Precedes.cons_left {x : α} {ys : List α} (h : Precedes [x] ys) (xs : List α) :
    Precedes (x :: xs) ys := by
  cases ys with
  | nil => exact h.elim
  | cons y ys => exact .inl (h.resolve_right fun h => by cases ys <;> exact h.2)

theorem Precedes.cons_right {y : α} {xs : List α} (h : Precedes xs [y]) (ys : List α) :
    Precedes xs (y :: ys) := by
  cases xs with
  | nil => exact h.elim
  | cons x xs => exact .inl (h.resolve_right fun h => by cases xs <;> exact h.2)

end Precedes

/-- **A way to write characters as units**, of which the ranks tell the order. -/
structure CharCode (α : Type) [LT α] where
  units : Char → List α
  rank : Char → Nat
  ne_nil : ∀ c, units c ≠ []
  rank_injective : Function.Injective rank
  precedes : ∀ {c c'}, rank c < rank c' → Precedes (units c) (units c')

namespace CharCode

variable {α : Type} [LT α] {code : CharCode α}

/-- The units of a text. -/
def encode (code : CharCode α) (cs : List Char) : List α :=
  cs.flatMap code.units

@[simp] theorem encode_nil (code : CharCode α) : code.encode [] = [] := rfl

@[simp] theorem encode_cons (code : CharCode α) (c : Char) (cs : List Char) :
    code.encode (c :: cs) = code.units c ++ code.encode cs :=
  List.flatMap_cons

theorem nil_lt_append (c : Char) (s : List α) : [] < code.units c ++ s := by
  obtain ⟨x, xs, hxs⟩ := List.exists_cons_of_ne_nil (code.ne_nil c)
  rw [hxs]
  exact List.nil_lt_cons x _

variable [Std.Asymm fun a b : α => a < b]

/-- **The order of texts is the order of the ranks where they differ first.** -/
theorem append_lt_append_iff {c c' : Char} (hne : c ≠ c') (s t : List α) :
    code.units c ++ s < code.units c' ++ t ↔ code.rank c < code.rank c' := by
  constructor
  · intro h
    obtain hlt | heq | hgt := Nat.lt_trichotomy (code.rank c) (code.rank c')
    · exact hlt
    · exact absurd (code.rank_injective heq) hne
    · exact absurd h (List.lt_asymm ((code.precedes hgt).append_lt_append t s))
  · intro h
    exact (code.precedes h).append_lt_append s t

/-- What two texts have in common at their beginning does not matter. -/
theorem append_lt_append_left (xs s t : List α) : xs ++ s < xs ++ t ↔ s < t := by
  induction xs with
  | nil => rfl
  | cons x xs ih => simp [ih]

/-- **Of two texts one comes first.** -/
theorem encode_lt_or_lt {cs cs' : List Char} (hne : cs ≠ cs') :
    code.encode cs < code.encode cs' ∨ code.encode cs' < code.encode cs := by
  induction cs generalizing cs' with
  | nil =>
    obtain ⟨c', cs', rfl⟩ := List.exists_cons_of_ne_nil hne.symm
    exact .inl (nil_lt_append c' _)
  | cons c cs ih =>
    cases cs' with
    | nil => exact .inr (nil_lt_append c _)
    | cons c' cs' =>
      rw [encode_cons, encode_cons]
      by_cases hc : c = c'
      · subst hc
        rw [append_lt_append_left, append_lt_append_left]
        exact ih fun h => hne (congrArg (c :: ·) h)
      · rw [append_lt_append_iff hc, append_lt_append_iff (Ne.symm hc)]
        exact Nat.lt_or_gt_of_ne fun h => hc (code.rank_injective h)

end CharCode

/-! ## UTF-8 -/

namespace Utf8

/-- No character is a surrogate. -/
theorem toNat_cases (c : Char) :
    c.toNat < 0xD800 ∨ 0xDFFF < c.toNat ∧ c.toNat < 0x110000 := c.valid

/-- The last continuation octets of a character. -/
def tails : (count n : Nat) → Bytes
  | 0, _ => []
  | count + 1, n => UInt8.ofNat (n / 64 ^ count % 64 + 0x80) :: tails count n

/-- **What the first octet of a character tells**: how many more there are, and what the number
begins with. -/
inductive Leads (n : Nat) : (first count : Nat) → Prop
  | one (h : n < 0x80) : Leads n n 0
  | two (h : 0x80 ≤ n ∧ n < 0x800) : Leads n (n / 64 + 0xC0) 1
  | three (h : 0x800 ≤ n ∧ n < 0x10000) : Leads n (n / 64 ^ 2 + 0xE0) 2
  | four (h : 0x10000 ≤ n ∧ n < 0x110000) : Leads n (n / 64 ^ 3 + 0xF0) 3

theorem exists_leads (c : Char) : ∃ first count, Leads c.toNat first count
    ∧ String.utf8EncodeChar c = UInt8.ofNat first :: tails count c.toNat := by
  have hc := toNat_cases c
  simp only [String.utf8EncodeChar, Char.toNat_val]
  generalize c.toNat = n at hc
  split
  case isTrue h1 => exact ⟨n, 0, .one (by omega), rfl⟩
  case isFalse h1 =>
  split
  case isTrue h2 =>
    have hfirst : n / 64 % 0x20 = n / 64 := by omega
    refine ⟨_, 1, .two (by omega), ?_⟩
    simp only [tails, hfirst, Nat.pow_zero, Nat.div_one]
  case isFalse h2 =>
  split
  case isTrue h3 =>
    have hfirst : n / 4096 % 0x10 = n / 4096 := by omega
    refine ⟨_, 2, .three (by omega), ?_⟩
    simp only [tails, hfirst, Nat.pow_zero, Nat.div_one, Nat.reducePow]
  case isFalse h3 =>
    have hfirst : n / 262144 % 0x08 = n / 262144 := by omega
    refine ⟨_, 3, .four (by omega), ?_⟩
    simp only [tails, hfirst, Nat.pow_zero, Nat.div_one, Nat.reducePow]

theorem utf8EncodeChar_ne_nil (c : Char) : String.utf8EncodeChar c ≠ [] := by
  obtain ⟨first, count, -, heq⟩ := exists_leads c
  rw [heq]
  exact List.cons_ne_nil _ _

namespace Leads

variable {n n' first first' count count' : Nat}

theorem first_lt (h : Leads n first count) : first < 256 := by
  cases h <;> omega

/-- A greater number is told by the first octets or by those after them. -/
theorem lt_or_lt (h : Leads n first count) (h' : Leads n' first' count') (hlt : n < n') :
    first < first' ∨ first = first' ∧ count = count' ∧ n % 64 ^ count < n' % 64 ^ count := by
  cases h <;> cases h' <;> omega

end Leads

theorem precedes_cons_ofNat {m n : Nat} {xs ys : Bytes} (hm : m < 256) (hn : n < 256)
    (h : m < n ∨ m = n ∧ Precedes xs ys) :
    Precedes (UInt8.ofNat m :: xs) (UInt8.ofNat n :: ys) := by
  refine h.imp (fun hlt => ?_) fun ⟨heq, hrest⟩ => ⟨congrArg UInt8.ofNat heq, hrest⟩
  rw [UInt8.lt_iff_toNat_lt, UInt8.toNat_ofNat', UInt8.toNat_ofNat']
  omega

theorem precedes_tails {count n n' : Nat} (h : n % 64 ^ count < n' % 64 ^ count) :
    Precedes (tails count n) (tails count n') := by
  induction count with
  | zero => omega
  | succ count ih =>
    refine precedes_cons_ofNat (by omega) (by omega) ?_
    rw [Nat.mod_pow_succ, Nat.mod_pow_succ] at h
    have hpos : 0 < 64 ^ count := Nat.pow_pos (by decide)
    have hn := Nat.mod_lt n hpos
    have hn' := Nat.mod_lt n' hpos
    obtain hlt | heq | hgt := Nat.lt_trichotomy (n / 64 ^ count % 64) (n' / 64 ^ count % 64)
    · exact .inl (by omega)
    · rw [heq] at h
      exact .inr ⟨by omega, ih (by omega)⟩
    · have hstep := Nat.mul_le_mul_left (64 ^ count) hgt
      rw [Nat.mul_succ] at hstep
      omega

/-- **The octets of characters come in the order of their numbers.** -/
theorem precedes_utf8EncodeChar {c c' : Char} (h : c.toNat < c'.toNat) :
    Precedes (String.utf8EncodeChar c) (String.utf8EncodeChar c') := by
  obtain ⟨first, count, hleads, heq⟩ := exists_leads c
  obtain ⟨first', count', hleads', heq'⟩ := exists_leads c'
  rw [heq, heq']
  refine precedes_cons_ofNat hleads.first_lt hleads'.first_lt ?_
  refine (hleads.lt_or_lt hleads' h).imp_right fun ⟨hfirst, hcount, hrest⟩ => ?_
  subst hcount
  exact ⟨hfirst, precedes_tails hrest⟩

/-- The octets of characters, in the order of their numbers. -/
def code : CharCode UInt8 where
  units := String.utf8EncodeChar
  rank := Char.toNat
  ne_nil := utf8EncodeChar_ne_nil
  rank_injective _ _ := Char.toNat_inj.mp
  precedes := precedes_utf8EncodeChar

end Utf8

/-! ## UTF-16 -/

namespace Utf16

/-- **The code units of a character**: its number on the first plane, two surrogates beyond it. -/
def units (c : Char) : List Nat :=
  if c.toNat < 0x10000 then [c.toNat]
  else [0xD800 + (c.toNat - 0x10000) / 0x400, 0xDC00 + (c.toNat - 0x10000) % 0x400]

/-- The surrogates stand before the last characters of the first plane. -/
def rank (c : Char) : Nat :=
  if 0xE000 ≤ c.toNat ∧ c.toNat < 0x10000 then c.toNat + 0x110000 else c.toNat

theorem rank_of_lt {c : Char} (h : c.toNat < 0xE000) : rank c = c.toNat :=
  if_neg fun hc => Nat.not_le_of_lt h hc.1

theorem toNat_le_rank (c : Char) : c.toNat ≤ rank c := by
  rw [rank]
  split
  · exact Nat.le_add_right _ _
  · exact Nat.le_refl _

/-- The code units of characters, in the order of their ranks. -/
def code : CharCode Nat where
  units := units
  rank := rank
  ne_nil c := by
    rw [units]
    split <;> exact List.cons_ne_nil _ _
  rank_injective c c' h := by
    have hc := Utf8.toNat_cases c
    have hc' := Utf8.toNat_cases c'
    rw [rank, rank] at h
    rw [← Char.toNat_inj]
    split_ifs at h <;> omega
  precedes {c c'} h := by
    have hc := Utf8.toNat_cases c
    have hc' := Utf8.toNat_cases c'
    rw [rank, rank] at h
    rw [units, units]
    split_ifs at h ⊢ <;> simp only [Precedes, and_false, or_false] <;> omega

/-- **The code units of a text.** -/
def encode (s : String) : List Nat :=
  s.toList.flatMap units

/-- **The order of code units.** -/
def Before (s t : String) : Prop := encode s < encode t

instance (s t : String) : Decidable (Before s t) := inferInstanceAs (Decidable (_ < _))

theorem before_or_before {s t : String} (hne : s ≠ t) : Before s t ∨ Before t s :=
  code.encode_lt_or_lt fun h => hne (String.toList_inj.mp h)

theorem Before.asymm {s t : String} (h : Before s t) : ¬Before t s := List.lt_asymm h

end Utf16

end ProofLogin
