import ProofLogin.Json.Tree
import ProofLogin.Json.Value
import ProofLogin.Proofs.Text.Digits
import ProofLogin.Proofs.Text.Utf8

/-!
# Proofs/Json/Numeral — an integer is read back from its digits

`ofWord?_intOctets` is the round trip, for integers of any size: the sign is the first octet, the
rest are digits without a zero too many, and there is no fraction and no exponent behind them.
`ofWord?_eq_integer_iff` says that nothing else is an integer: every other number is a decimal.
-/

namespace ProofLogin.Json

/-- The octets of the digits of a number. -/
def digitOctets (n : Nat) : Bytes :=
  (Nat.toDigits 10 n).flatMap String.utf8EncodeChar

/-- The octets of an integer. -/
def intOctets (n : Int) : Bytes :=
  (Value.intChars n).flatMap String.utf8EncodeChar

theorem intOctets_eq (n : Int) :
    intOctets n = (if n < 0 then [0x2D] else []) ++ digitOctets n.natAbs := by
  rw [intOctets, Value.intChars, List.flatMap_append, ← digitOctets]
  split <;> rfl

theorem digitOctets_eq_map (n : Nat) :
    digitOctets n = (Nat.toDigits 10 n).map fun c => UInt8.ofNat c.toNat := by
  have hc : ∀ c ∈ Nat.toDigits 10 n, String.utf8EncodeChar c = [UInt8.ofNat c.toNat] := by
    intro c hc
    have hd := Char.isDigit_iff_toNat.mp
      (Nat.isDigit_of_mem_toDigits (by decide : 0 < 10) (by decide) hc)
    simp only [Char.reduceToNat] at hd
    exact Utf8.utf8EncodeChar_of_lt (by omega)
  rw [digitOctets, List.flatMap_def, List.map_congr_left hc, ← List.flatMap_def,
    List.map_eq_flatMap]

/-- What a digit is as an octet: a digit that counts the same. -/
theorem isDigit_ofNat {c : Char} (h : c.isDigit = true) :
    (UInt8.ofNat c.toNat).toNat = c.toNat ∧ Numeral.isDigit (UInt8.ofNat c.toNat) = true := by
  have hd := Char.isDigit_iff_toNat.mp h
  simp only [Char.reduceToNat] at hd
  have hn : (UInt8.ofNat c.toNat).toNat = c.toNat := by
    rw [UInt8.toNat_ofNat']
    omega
  refine ⟨hn, ?_⟩
  simp only [Numeral.isDigit, Bool.and_eq_true, decide_eq_true_eq, UInt8.le_iff_toNat_le, hn]
  exact hd

theorem isDigit_of_mem_digitOctets {n : Nat} : ∀ b ∈ digitOctets n, Numeral.isDigit b = true := by
  intro b hb
  rw [digitOctets_eq_map, List.mem_map] at hb
  obtain ⟨c, hc, rfl⟩ := hb
  exact (isDigit_ofNat (Nat.isDigit_of_mem_toDigits (by decide) (by decide) hc)).2

theorem digitsFrom_map {cs : List Char} (h : ∀ c ∈ cs, c.isDigit = true) (n : Nat) :
    Numeral.digitsFrom n (cs.map fun c => UInt8.ofNat c.toNat) = Nat.ofDigitChars 10 cs n := by
  induction cs generalizing n with
  | nil => simp [Numeral.digitsFrom]
  | cons c cs ih =>
    have hc := (isDigit_ofNat (h c (by simp))).1
    rw [Nat.ofDigitChars_cons, ← ih fun c hc => h c (by simp [hc])]
    simp [Numeral.digitsFrom, hc]

theorem digitsFrom_digitOctets (n : Nat) : Numeral.digitsFrom 0 (digitOctets n) = n := by
  rw [digitOctets_eq_map, digitsFrom_map fun c hc =>
    Nat.isDigit_of_mem_toDigits (by decide) (by decide) hc, Nat.ofDigitChars_ten_toDigits]

theorem digitOctets_ne_nil (n : Nat) : digitOctets n ≠ [] := by
  rw [digitOctets_eq_map, ne_eq, List.map_eq_nil_iff]
  exact Nat.toDigits_ne_nil

/-- There is no zero too many in front. -/
theorem length_digitOctets_of_head? {n : Nat} (h : (digitOctets n).head? = some 0x30) :
    (digitOctets n).length = 1 := by
  rw [digitOctets_eq_map, List.head?_map, Option.map_eq_some_iff] at h
  obtain ⟨c, hc, h30⟩ := h
  have hd := (isDigit_ofNat (Nat.isDigit_of_mem_toDigits (by decide : 0 < 10) (by decide)
    (List.mem_of_mem_head? hc))).1
  have h0 : c = '0' := by
    rw [h30] at hd
    exact Char.toNat_inj.mp hd.symm
  subst h0
  rw [digitOctets_eq_map, List.length_map, Text.length_toDigits_of_head? hc]

theorem unsigned?_digitOctets (negative : Bool) (n : Nat) :
    Numeral.unsigned? negative (digitOctets n) =
      if negative then if n = 0 then some (.decimal true 0 0) else some (.integer (-n))
      else some (.integer n) := by
  have htake : (digitOctets n).takeWhile Numeral.isDigit = digitOctets n := by
    rw [← List.append_nil (digitOctets n), List.takeWhile_append_of_pos isDigit_of_mem_digitOctets,
      List.takeWhile_nil]
  have hdrop : (digitOctets n).dropWhile Numeral.isDigit = [] := by
    rw [← List.append_nil (digitOctets n), List.dropWhile_append_of_pos isDigit_of_mem_digitOctets,
      List.dropWhile_nil]
  have hok : ¬(digitOctets n = [] ∨ (digitOctets n).head? = some 0x30 ∧ (digitOctets n).length ≠ 1)
      := by
    rintro (h | ⟨h, h'⟩)
    · exact digitOctets_ne_nil n h
    · exact h' (length_digitOctets_of_head? h)
  rw [Numeral.unsigned?, htake, hdrop, if_neg hok]
  simp only [Numeral.fraction?, Numeral.exponent?, Option.bind_eq_bind, Option.bind_some,
    digitsFrom_digitOctets]

/-- **An integer is read back from its octets.** -/
theorem ofWord?_intOctets (n : Int) : Numeral.ofWord? (intOctets n) = some (.integer n) := by
  rw [intOctets_eq]
  split
  case isTrue h =>
    rw [List.singleton_append, Numeral.ofWord?, unsigned?_digitOctets, if_pos rfl,
      if_neg (by omega)]
    exact congrArg (some <| Numeral.integer ·) (by omega)
  case isFalse h =>
    have hsign : Numeral.ofWord? (digitOctets n.natAbs)
        = Numeral.unsigned? false (digitOctets n.natAbs) := by
      rw [Numeral.ofWord?]
      intro r hr
      have := isDigit_of_mem_digitOctets 0x2D (hr ▸ List.mem_cons_self)
      exact absurd this (by decide)
    rw [List.nil_append, hsign, unsigned?_digitOctets, if_neg (by decide)]
    exact congrArg (some <| Numeral.integer ·) (by omega)

/-! ## Nothing else is an integer -/

/-- The character of an octet that is a digit. -/
def digitOf (b : UInt8) : Char := Nat.digitChar (b.toNat - 0x30)

theorem isDigit_digitOf {b : UInt8} (h : Numeral.isDigit b = true) :
    (digitOf b).isDigit = true ∧ UInt8.ofNat (digitOf b).toNat = b := by
  simp only [Numeral.isDigit, Bool.and_eq_true, decide_eq_true_eq, UInt8.le_iff_toNat_le,
    UInt8.reduceToNat] at h
  have hc : (digitOf b).toNat = b.toNat := by
    rw [digitOf, Nat.toNat_digitChar_of_lt_ten (by omega)]
    omega
  refine ⟨Char.isDigit_iff_toNat.mpr ?_, ?_⟩
  · rw [hc]
    exact h
  · rw [hc, UInt8.ofNat_toNat]

/-- **Digits are those of the number they spell**, unless there is a zero too many in front. -/
theorem digitOctets_digitsFrom {ds : Bytes} (hne : ds ≠ [])
    (h : ∀ b ∈ ds, Numeral.isDigit b = true) (hzero : ds.head? = some 0x30 → ds.length = 1) :
    digitOctets (Numeral.digitsFrom 0 ds) = ds := by
  have hcs : ∀ c ∈ ds.map digitOf, c.isDigit = true := by
    intro c hc
    obtain ⟨b, hb, rfl⟩ := List.mem_map.mp hc
    exact (isDigit_digitOf (h b hb)).1
  have hds : (ds.map digitOf).map (fun c => UInt8.ofNat c.toNat) = ds := by
    rw [List.map_map]
    exact (List.map_congr_left fun b hb => (isDigit_digitOf (h b hb)).2).trans (List.map_id' ds)
  have hhead : (ds.map digitOf).head? = some '0' → (ds.map digitOf).length = 1 := by
    intro h0
    rw [List.length_map]
    refine hzero ?_
    rw [← hds, List.head?_map, h0]
    rfl
  have hnumber : Numeral.digitsFrom 0 ds = Nat.ofDigitChars 10 (ds.map digitOf) 0 := by
    rw [← digitsFrom_map hcs, hds]
  rw [digitOctets_eq_map, hnumber,
    Text.toDigits_ofDigitChars (mt List.map_eq_nil_iff.mp hne) hcs hhead, hds]

theorem eq_nil_of_exponent? {r : Bytes} (h : Numeral.exponent? r = some none) : r = [] := by
  cases r with
  | nil => rfl
  | cons e r =>
    unfold Numeral.exponent? at h
    obtain ⟨-, h⟩ := Option.ite_none_right_eq_some.mp h
    cases h

theorem eq_of_fraction? {bs r : Bytes} (h : Numeral.fraction? bs = some (none, r)) : r = bs := by
  unfold Numeral.fraction? at h
  split at h
  · obtain ⟨-, h⟩ := Option.ite_none_left_eq_some.mp h
    cases h
  · cases h
    rfl

/-- A number that is an integer has digits only. -/
theorem eq_digitOctets_of_unsigned? {negative : Bool} {bs : Bytes} {n : Int}
    (h : Numeral.unsigned? negative bs = some (.integer n)) :
    ∃ m : Nat, bs = digitOctets m ∧ if negative then m ≠ 0 ∧ n = -(m : Int) else n = m := by
  rw [Numeral.unsigned?] at h
  obtain ⟨hwhole, h⟩ := Option.ite_none_left_eq_some.mp h
  obtain ⟨⟨fraction, r⟩, hfraction, h⟩ := Option.bind_eq_some_iff.mp h
  obtain ⟨exponent, hexponent, h⟩ := Option.bind_eq_some_iff.mp h
  obtain ⟨rfl, rfl⟩ : fraction = none ∧ exponent = none := by
    cases fraction <;> cases exponent <;> first | exact ⟨rfl, rfl⟩ | cases h
  have hdrop : bs.dropWhile Numeral.isDigit = [] :=
    (eq_of_fraction? hfraction).symm.trans (eq_nil_of_exponent? hexponent)
  have htake : bs.takeWhile Numeral.isDigit = bs := by
    have := List.takeWhile_append_dropWhile (p := Numeral.isDigit) (l := bs)
    rwa [hdrop, List.append_nil] at this
  have hdigits : ∀ b ∈ bs, Numeral.isDigit b = true :=
    List.all_eq_true.mp (htake ▸ List.all_takeWhile)
  rw [htake] at hwhole h
  obtain ⟨hne, hzero⟩ := not_or.mp hwhole
  refine ⟨Numeral.digitsFrom 0 bs, (digitOctets_digitsFrom hne hdigits fun h0 => ?_).symm, ?_⟩
  · exact Decidable.not_not.mp fun hlength => hzero ⟨h0, hlength⟩
  · cases negative with
    | false =>
      cases h
      rfl
    | true =>
      change (if Numeral.digitsFrom 0 bs = 0 then some (Numeral.decimal true 0 0)
        else some (.integer (-(Numeral.digitsFrom 0 bs : Int)))) = some (.integer n) at h
      split at h
      case isTrue => cases h
      case isFalse hn =>
        cases h
        exact ⟨hn, rfl⟩

/-- **A word is an integer exactly if it is its decimal text.** -/
theorem ofWord?_eq_integer_iff {w : Bytes} {n : Int} :
    Numeral.ofWord? w = some (.integer n) ↔ w = intOctets n := by
  refine ⟨fun h => ?_, fun h => h ▸ ofWord?_intOctets n⟩
  rw [Numeral.ofWord?.eq_def] at h
  split at h
  case h_1 r =>
    obtain ⟨m, rfl, hm, rfl⟩ := eq_digitOctets_of_unsigned? h
    rw [intOctets_eq, if_pos (by omega), Int.natAbs_neg, Int.natAbs_natCast]
    rfl
  case h_2 r =>
    obtain ⟨m, rfl, rfl⟩ := eq_digitOctets_of_unsigned? h
    rw [intOctets_eq, if_neg (by omega), Int.natAbs_natCast]
    rfl

/-! ## Integers as words -/

theorem isWordOctet_of_mem_intOctets {n : Int} : ∀ b ∈ intOctets n, isWordOctet b = true := by
  intro b hb
  rw [intOctets_eq, List.mem_append] at hb
  rcases hb with hb | hb
  · split at hb
    · rw [List.mem_singleton] at hb
      subst hb
      rfl
    · exact absurd hb List.not_mem_nil
  · have := isDigit_of_mem_digitOctets b hb
    rw [Numeral.isDigit] at this
    simp [isWordOctet, this]

theorem intOctets_ne_nil (n : Int) : intOctets n ≠ [] := by
  rw [intOctets_eq]
  exact List.append_ne_nil_of_right_ne_nil _ (digitOctets_ne_nil _)

/-- No number is a literal. -/
theorem ofWord?_of_number {w : Bytes} {N : Numeral} (h : Numeral.ofWord? w = some N) :
    Tree.ofWord? w = some (.number N) := by
  have hne {u : Bytes} (hu : Numeral.ofWord? u = none) : w ≠ u := by
    rintro rfl
    rw [hu] at h
    cases h
  rw [Tree.ofWord?, if_neg (hne rfl), if_neg (hne rfl), if_neg (hne rfl), h]
  rfl

/-- **The tree of a number is the number.** -/
theorem ofWord?_int (n : Int) : Tree.ofWord? (intOctets n) = some (.number (.integer n)) :=
  ofWord?_of_number (ofWord?_intOctets n)

end ProofLogin.Json
