import ProofLogin.Encoding.Hex
import ProofLogin.Proofs.Outcome
import ProofLogin.Proofs.Text.Blank
import ProofLogin.Proofs.Text.Utf8

/-!
# Proofs/Encoding/Hex — octets are read back from their digits

`decode_encode` is the round trip; `trim_encode` says that nothing of a hexadecimal text is lost
where blanks around it are dropped.  `exists_decode_iff` says which texts are read at all: the even
numbers of digits, in either case.  In lower case such a text is the one that is written for what is
read (`decode_eq_ok_iff`), so that octets have one text but for the case of its digits.
-/

namespace ProofLogin.Hex

/-! ## Digits -/

theorem toNat_digitChar_lt : ∀ n < 16, (Nat.digitChar n).toNat < 0x80 := by decide

theorem isBlank_digitChar : ∀ n < 16, Text.isBlank (Nat.digitChar n) = false := by decide

/-- A digit is read as what it stands for. -/
theorem value?_digitChar : ∀ n < 16, value? (UInt8.ofNat (Nat.digitChar n).toNat) = some n := by
  decide

/-- The two digits of an octet, as octets. -/
def digits (b : UInt8) : Bytes :=
  [UInt8.ofNat (Nat.digitChar (b.toNat / 16)).toNat,
    UInt8.ofNat (Nat.digitChar (b.toNat % 16)).toNat]

theorem toNat_div_lt (b : UInt8) : b.toNat / 16 < 16 := by
  have := b.toNat_lt
  omega

theorem toNat_mod_lt (b : UInt8) : b.toNat % 16 < 16 := Nat.mod_lt _ (by decide)

theorem utf8Encode_encode (bs : Bytes) : Utf8.encode (encode bs) = bs.flatMap digits := by
  rw [encode, Utf8.encode_ofList, List.flatMap_assoc]
  refine congrArg (bs.flatMap ·) (funext fun b => ?_)
  simp only [List.flatMap_cons, List.flatMap_nil, List.append_nil, digits,
    Utf8.utf8EncodeChar_of_lt (toNat_digitChar_lt _ (toNat_div_lt b)),
    Utf8.utf8EncodeChar_of_lt (toNat_digitChar_lt _ (toNat_mod_lt b)), List.singleton_append]

@[simp] theorem length_flatMap_digits (bs : Bytes) :
    (bs.flatMap digits).length = 2 * bs.length := by
  induction bs with
  | nil => rfl
  | cons b bs ih =>
    have hdigits : (digits b).length = 2 := rfl
    rw [List.flatMap_cons, List.length_append, ih, hdigits, List.length_cons]
    omega

/-! ## Reading back -/

theorem pairs_flatMap_digits (i : Nat) (bs : Bytes) : pairs i (bs.flatMap digits) = .ok bs := by
  induction bs generalizing i with
  | nil => rfl
  | cons b bs ih =>
    have hb : UInt8.ofNat (b.toNat / 16 * 16 + b.toNat % 16) = b := by
      rw [Nat.div_add_mod', UInt8.ofNat_toNat]
    simp only [List.flatMap_cons, digits, List.cons_append, List.nil_append, pairs,
      value?_digitChar _ (toNat_div_lt b), value?_digitChar _ (toNat_mod_lt b), ih, Except.map, hb]

theorem decodeBytes_flatMap_digits (bs : Bytes) : decodeBytes (bs.flatMap digits) = .ok bs := by
  rw [decodeBytes, if_neg (by rw [length_flatMap_digits]; omega), pairs_flatMap_digits]

/-- **Octets are read back from their digits.** -/
@[simp] theorem decode_encode (bs : Bytes) : decode (encode bs) = .ok bs := by
  rw [decode, utf8Encode_encode, decodeBytes_flatMap_digits]

theorem encode_injective : Function.Injective encode := fun as bs h =>
  Except.ok.inj (by rw [← decode_encode, h, decode_encode])

/-! ## The text of octets -/

theorem isBlank_of_mem_encode {bs : Bytes} : ∀ c ∈ (encode bs).toList, Text.isBlank c = false := by
  intro c hc
  rw [encode, String.toList_ofList, List.mem_flatMap] at hc
  obtain ⟨b, -, hc⟩ := hc
  simp only [List.mem_cons, List.not_mem_nil, or_false] at hc
  rcases hc with rfl | rfl
  · exact isBlank_digitChar _ (toNat_div_lt b)
  · exact isBlank_digitChar _ (toNat_mod_lt b)

/-- **There are no blanks around the digits.** -/
@[simp] theorem trim_encode (bs : Bytes) : Text.trim (encode bs) = encode bs :=
  Text.trim_of_forall isBlank_of_mem_encode

theorem encode_ne_empty {bs : Bytes} (h : bs ≠ []) : encode bs ≠ "" := by
  intro he
  have hd : encode bs = encode [] := he
  exact h (encode_injective hd)

/-! ## Which texts are read -/

/-- A digit of either case. -/
def IsDigit (c : Char) : Prop :=
  c ∈ "0123456789abcdefABCDEF".toList

instance (c : Char) : Decidable (IsDigit c) := inferInstanceAs (Decidable (_ ∈ _))

theorem isSome_value?_of_isDigit {c : Char} (h : IsDigit c) :
    c.toNat < 0x80 ∧ (value? (UInt8.ofNat c.toNat)).isSome := by
  have hall : "0123456789abcdefABCDEF".toList.all fun c =>
      c.toNat < 0x80 ∧ (value? (UInt8.ofNat c.toNat)).isSome := by decide
  exact of_decide_eq_true (List.all_eq_true.mp hall c h)

theorem isDigit_of_isSome_value? :
    ∀ n < 0x80, (value? (UInt8.ofNat n)).isSome → IsDigit (Char.ofNat n) := by
  decide

theorem value?_of_le {b : UInt8} (h : 0x80 ≤ b.toNat) : value? b = none := by
  simp only [value?]
  rw [if_neg (by omega), if_neg (by omega), if_neg (by omega)]

/-- **A character is a digit if its octets are.** -/
theorem isDigit_iff {c : Char} :
    IsDigit c ↔ ∀ b ∈ String.utf8EncodeChar c, (value? b).isSome := by
  by_cases hc : c.toNat < 0x80
  case pos =>
    rw [Utf8.utf8EncodeChar_of_lt hc, List.forall_mem_singleton]
    refine ⟨fun h => (isSome_value?_of_isDigit h).2, fun h => ?_⟩
    rw [← Char.ofNat_toNat c]
    exact isDigit_of_isSome_value? _ hc h
  case neg =>
    obtain ⟨b, bs, hbs⟩ := List.exists_cons_of_ne_nil (String.utf8EncodeChar_ne_nil (c := c))
    have hb : b ∈ String.utf8EncodeChar c := hbs ▸ List.mem_cons_self
    refine iff_of_false (fun h => hc (isSome_value?_of_isDigit h).1) fun h => ?_
    have hsome := h b hb
    rw [value?_of_le (Utf8.le_of_mem_utf8EncodeChar (Nat.not_lt.mp hc) hb)] at hsome
    cases hsome

/-- The octets of digits, one for each. -/
theorem utf8Encode_eq_map {s : String} (h : ∀ c ∈ s.toList, IsDigit c) :
    Utf8.encode s = s.toList.map fun c => UInt8.ofNat c.toNat := by
  rw [Utf8.encode, List.map_eq_flatMap, List.flatMap_def, List.flatMap_def]
  exact congrArg List.flatten <| List.map_congr_left fun c hc =>
    Utf8.utf8EncodeChar_of_lt (isSome_value?_of_isDigit (h c hc)).1

theorem length_utf8Encode {s : String} (h : ∀ c ∈ s.toList, IsDigit c) :
    (Utf8.encode s).length = s.length := by
  rw [utf8Encode_eq_map h, List.length_map, String.length_toList]

/-- **Octets are read two by two**, if all of them are digits. -/
theorem exists_pairs_iff {i : Nat} {ds : Bytes} : (∃ bs, pairs i ds = .ok bs) ↔
    ds.length % 2 = 0 ∧ ∀ d ∈ ds, (value? d).isSome := by
  fun_induction pairs i ds with
  | case1 i => simp
  | case2 i d => simp
  | case3 i a b r ha => simp [ha]
  | case4 i a b r x ha hb => simp [hb]
  | case5 i a b r x ha y hb ih =>
    have hlength : (a :: b :: r).length % 2 = r.length % 2 := by
      simp only [List.length_cons]
      omega
    rw [hlength]
    simp only [Outcome.map_eq_ok, exists_comm (α := Bytes), exists_and_left, exists_eq', and_true,
      ih, List.forall_mem_cons, ha, hb, Option.isSome_some, true_and]

theorem length_of_pairs {i : Nat} {ds bs : Bytes} (h : pairs i ds = .ok bs) :
    ds.length = 2 * bs.length := by
  fun_induction pairs i ds generalizing bs with
  | case1 i => cases h; rfl
  | case2 i d => cases h
  | case3 i a b r ha => cases h
  | case4 i a b r x ha hb => cases h
  | case5 i a b r x ha y hb ih =>
    obtain ⟨bs, hbs, rfl⟩ := Outcome.map_eq_ok.mp h
    rw [List.length_cons, List.length_cons, ih hbs, List.length_cons]
    omega

theorem forall_isSome_value?_iff {s : String} :
    (∀ b ∈ Utf8.encode s, (value? b).isSome) ↔ ∀ c ∈ s.toList, IsDigit c := by
  simp only [Utf8.encode, List.mem_flatMap, isDigit_iff, forall_exists_index, and_imp]
  exact ⟨fun h c hc b hb => h b c hc hb, fun h b c hc hb => h c hc b hb⟩

theorem decodeBytes_eq_ok_iff {ds bs : Bytes} : decodeBytes ds = .ok bs ↔ pairs 0 ds = .ok bs := by
  rw [decodeBytes, Outcome.ite_error_eq_ok, Nat.mod_two_not_eq_one]
  exact ⟨And.right, fun h => ⟨(exists_pairs_iff.mp ⟨bs, h⟩).1, h⟩⟩

/-- **The texts that are read** are the even numbers of digits. -/
theorem exists_decode_iff {s : String} :
    (∃ bs, decode s = .ok bs) ↔ (∀ c ∈ s.toList, IsDigit c) ∧ s.length % 2 = 0 := by
  simp only [decode, decodeBytes_eq_ok_iff, exists_pairs_iff, forall_isSome_value?_iff]
  constructor
  · rintro ⟨heven, hdigits⟩
    exact ⟨hdigits, length_utf8Encode hdigits ▸ heven⟩
  · rintro ⟨hdigits, heven⟩
    exact ⟨(length_utf8Encode hdigits).symm ▸ heven, hdigits⟩

/-- Every octet takes two digits. -/
theorem length_of_decode {s : String} {bs : Bytes} (h : decode s = .ok bs) :
    s.length = 2 * bs.length := by
  have hdigits := (exists_decode_iff.mp ⟨bs, h⟩).1
  rw [← length_utf8Encode hdigits]
  exact length_of_pairs (decodeBytes_eq_ok_iff.mp h)

/-! ## One text but for the case -/

theorem toList_toLower (s : String) : s.toLower.toList = s.toList.map Char.toLower :=
  String.toList_map ..

/-- A digit is read as what its lower-case form stands for. -/
theorem exists_value?_of_isDigit {c : Char} (h : IsDigit c) :
    ∃ n < 16, value? (UInt8.ofNat c.toNat) = some n ∧ Nat.digitChar n = c.toLower := by
  have hall : "0123456789abcdefABCDEF".toList.all fun (c : Char) => decide (∃ n : Nat,
      n < 16 ∧ value? (UInt8.ofNat c.toNat) = some n ∧ Nat.digitChar n = c.toLower) := by decide
  exact of_decide_eq_true (List.all_eq_true.mp hall c h)

/-- **The digits of what is read are the ones that were there**, in lower case. -/
theorem map_toLower_of_pairs : ∀ {i : Nat} {cs : List Char} {bs : Bytes},
    (∀ c ∈ cs, IsDigit c) → pairs i (cs.map fun c => UInt8.ofNat c.toNat) = .ok bs →
      cs.map Char.toLower
        = bs.flatMap fun b => [Nat.digitChar (b.toNat / 16), Nat.digitChar (b.toNat % 16)]
  | _, [], bs, _, h => by
    obtain rfl := Except.ok.inj h
    rfl
  | _, [_], _, _, h => nomatch h
  | i, a :: b :: cs, bs, hcs, h => by
    obtain ⟨x, hx, hax, hxa⟩ := exists_value?_of_isDigit (hcs a (by simp))
    obtain ⟨y, hy, hby, hyb⟩ := exists_value?_of_isDigit (hcs b (by simp))
    simp only [List.map_cons, pairs, hax, hby] at h
    obtain ⟨bs, hbs, rfl⟩ := Outcome.map_eq_ok.mp h
    have hn : (UInt8.ofNat (x * 16 + y)).toNat = x * 16 + y := by
      rw [UInt8.toNat_ofNat']
      omega
    have hhigh : (x * 16 + y) / 16 = x := by omega
    have hlow : (x * 16 + y) % 16 = y := by omega
    simp only [List.map_cons, List.flatMap_cons, List.cons_append, List.nil_append, hn, hhigh, hlow,
      hxa, hyb, map_toLower_of_pairs (fun c hc => hcs c (by simp [hc])) hbs]

/-- **A text is read as octets exactly if it is their text but for the case of its digits.** -/
theorem decode_eq_ok_iff {s : String} {bs : Bytes} :
    decode s = .ok bs ↔ (∀ c ∈ s.toList, IsDigit c) ∧ s.toLower = encode bs := by
  have hread {bs : Bytes} (h : decode s = .ok bs) : s.toLower = encode bs := by
    have hdigits := (exists_decode_iff.mp ⟨bs, h⟩).1
    rw [decode, decodeBytes_eq_ok_iff, utf8Encode_eq_map hdigits] at h
    rw [← String.toList_inj, toList_toLower, map_toLower_of_pairs hdigits h, encode,
      String.toList_ofList]
  constructor
  · intro h
    exact ⟨(exists_decode_iff.mp ⟨bs, h⟩).1, hread h⟩
  · rintro ⟨hdigits, hlower⟩
    have hlength : s.length = (encode bs).length := by
      rw [← hlower, ← String.length_toList, ← String.length_toList, toList_toLower, List.length_map]
    rw [length_of_decode (decode_encode bs)] at hlength
    obtain ⟨bs', h⟩ := exists_decode_iff.mpr ⟨hdigits, by omega⟩
    rwa [encode_injective ((hread h).symm.trans hlower)] at h

end ProofLogin.Hex
