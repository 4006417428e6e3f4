/-!
# Proofs/Text/Digits — a number has one decimal text

`toDigits_ofDigitChars` is the converse of the library's `ofDigitChars_toDigits`: digits are those
of the number they spell, unless there is a zero too many in front.

`toString_append_inj` reads an integer off the front of a text in which a hyphen follows it: the
sign stands before the digits, so that it is not taken for the end of them.
-/

namespace ProofLogin.Text

theorem digitChar_of_isDigit {c : Char} (h : c.isDigit = true) :
    c.toNat - '0'.toNat < 10 ∧ Nat.digitChar (c.toNat - '0'.toNat) = c := by
  have hn := Char.isDigit_iff_toNat.mp h
  have hlt : c.toNat - '0'.toNat < 10 := by
    simp only [Char.reduceToNat] at hn ⊢
    omega
  refine ⟨hlt, Char.toNat_inj.mp ?_⟩
  rw [Nat.toNat_digitChar_of_lt_ten hlt]
  simp only [Char.reduceToNat] at hn ⊢
  omega

/-- Digits behind a positive number are appended to its own. -/
theorem toDigits_ofDigitChars_of_pos {cs : List Char} (h : ∀ c ∈ cs, c.isDigit = true) {n : Nat}
    (hn : 0 < n) : Nat.toDigits 10 (Nat.ofDigitChars 10 cs n) = Nat.toDigits 10 n ++ cs := by
  induction cs generalizing n with
  | nil => simp
  | cons c cs ih =>
    obtain ⟨hlt, hc⟩ := digitChar_of_isDigit (h c (by simp))
    rw [Nat.ofDigitChars_cons, ih (fun c hc => h c (by simp [hc])) (by omega),
      ← Nat.toDigits_append_toDigits (by decide) hn hlt, Nat.toDigits_of_lt_base hlt, hc,
      List.append_assoc, List.singleton_append]

/-- **Digits are those of the number they spell**, unless there is a zero too many in front. -/
theorem toDigits_ofDigitChars {cs : List Char} (hne : cs ≠ []) (h : ∀ c ∈ cs, c.isDigit = true)
    (hzero : cs.head? = some '0' → cs.length = 1) :
    Nat.toDigits 10 (Nat.ofDigitChars 10 cs 0) = cs := by
  cases cs with
  | nil => exact absurd rfl hne
  | cons c cs =>
    obtain ⟨hlt, hc⟩ := digitChar_of_isDigit (h c (by simp))
    rcases Nat.eq_zero_or_pos (c.toNat - '0'.toNat) with h0 | hpos
    · obtain rfl : c = '0' := by rw [← hc, h0]; rfl
      obtain rfl : cs = [] := by simpa using hzero rfl
      rfl
    · rw [Nat.ofDigitChars_cons, Nat.mul_zero, Nat.zero_add,
        toDigits_ofDigitChars_of_pos (fun c hc => h c (by simp [hc])) hpos,
        Nat.toDigits_of_lt_base hlt, hc, List.singleton_append]

/-- The first digit of a positive number is no zero. -/
theorem head?_toDigits_ne {n : Nat} (hn : 0 < n) : (Nat.toDigits 10 n).head? ≠ some '0' := by
  induction n using Nat.base_induction 10 (by decide) with
  | single m hm =>
    rw [Nat.toDigits_of_lt_base hm]
    revert m
    decide
  | digit m k hk hm ih =>
    obtain ⟨c, cs, hcs⟩ := List.exists_cons_of_ne_nil (Nat.toDigits_ne_nil (b := 10) (n := m))
    rw [← Nat.toDigits_append_toDigits (by decide) hm hk, hcs]
    rw [hcs] at ih
    exact ih hm

theorem length_toDigits_of_head? {n : Nat} (h : (Nat.toDigits 10 n).head? = some '0') :
    (Nat.toDigits 10 n).length = 1 := by
  rcases Nat.eq_zero_or_pos n with rfl | hpos
  · rfl
  · exact absurd h (head?_toDigits_ne hpos)

/-! ## Numbers with hyphens between them -/

theorem toList_toString (n : Int) :
    (toString n).toList = (if n < 0 then ['-'] else []) ++ Nat.toDigits 10 n.natAbs := by
  rw [Int.toString_eq_repr, Int.repr_eq_if]
  split
  case isTrue h =>
    rw [Nat.toList_repr, if_neg (Int.not_lt.mpr h), List.nil_append]
    exact congrArg (Nat.toDigits 10) (by omega)
  case isFalse h =>
    have hneg : n < 0 := Int.not_le.mp h
    rw [String.toList_append, Nat.toList_repr, if_pos hneg]
    exact congrArg (['-'] ++ Nat.toDigits 10 ·) (by omega)

theorem toDigits_injective {m n : Nat} (h : Nat.toDigits 10 m = Nat.toDigits 10 n) : m = n := by
  rw [← Nat.ofDigitChars_ten_toDigits (n := m), h, Nat.ofDigitChars_ten_toDigits]

/-- The digits of a number end where something else follows them. -/
theorem toDigits_append_inj {m n : Nat} {r r' : List Char}
    (h : Nat.toDigits 10 m ++ '-' :: r = Nat.toDigits 10 n ++ '-' :: r') : m = n ∧ r = r' := by
  have hdigit (n : Nat) : ∀ c ∈ Nat.toDigits 10 n, c.isDigit = true := fun c hc =>
    Nat.isDigit_of_mem_toDigits (by decide) (by decide) hc
  have htake := congrArg (List.takeWhile Char.isDigit) h
  have hdrop := congrArg (List.dropWhile Char.isDigit) h
  rw [List.takeWhile_append_of_pos (hdigit m), List.takeWhile_append_of_pos (hdigit n),
    List.takeWhile_cons_of_neg (by decide), List.takeWhile_cons_of_neg (by decide),
    List.append_nil, List.append_nil] at htake
  rw [List.dropWhile_append_of_pos (hdigit m), List.dropWhile_append_of_pos (hdigit n),
    List.dropWhile_cons_of_neg (by decide), List.dropWhile_cons_of_neg (by decide)] at hdrop
  exact ⟨toDigits_injective htake, (List.cons.inj hdrop).2⟩

/-- No number begins with a hyphen. -/
theorem toDigits_append_ne (n : Nat) (r r' : List Char) :
    Nat.toDigits 10 n ++ r ≠ '-' :: r' := by
  intro h
  obtain ⟨c, cs, hcs⟩ := List.exists_cons_of_ne_nil (Nat.toDigits_ne_nil (b := 10) (n := n))
  rw [hcs, List.cons_append] at h
  obtain ⟨rfl, -⟩ := List.cons.inj h
  have := Nat.isDigit_of_mem_toDigits (by decide) (by decide) (hcs ▸ List.mem_cons_self)
  exact absurd this (by decide)

/-- **An integer ends at the first hyphen after its digits**, whatever its sign. -/
theorem toString_append_inj {m n : Int} {r r' : List Char}
    (h : (toString m).toList ++ '-' :: r = (toString n).toList ++ '-' :: r') : m = n ∧ r = r' := by
  rw [toList_toString, toList_toString, List.append_assoc, List.append_assoc] at h
  by_cases hm : m < 0
  · by_cases hn : n < 0
    · rw [if_pos hm, if_pos hn] at h
      obtain ⟨habs, hr⟩ := toDigits_append_inj (List.cons.inj h).2
      exact ⟨by omega, hr⟩
    · rw [if_pos hm, if_neg hn] at h
      exact absurd h.symm (toDigits_append_ne _ _ _)
  · by_cases hn : n < 0
    · rw [if_neg hm, if_pos hn] at h
      exact absurd h (toDigits_append_ne _ _ _)
    · rw [if_neg hm, if_neg hn] at h
      obtain ⟨habs, hr⟩ := toDigits_append_inj h
      exact ⟨by omega, hr⟩

end ProofLogin.Text
