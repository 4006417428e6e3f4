import ProofLogin.Text.Utf8

/-!
# Proofs/Text/Utf8 — a text is read back from its octets

`decode?_encode` is the round trip.  It goes character by character: what `utf8EncodeChar` writes is
one character to `chars?`, whatever comes after it, and the four widths of a character are the four
branches of the reader.
-/

namespace ProofLogin.Utf8

/-! ## Writing -/

@[simp] theorem encode_ofList (cs : List Char) :
    encode (String.ofList cs) = cs.flatMap String.utf8EncodeChar := by
  simp [encode]

/-- A character of ASCII is one octet. -/
theorem utf8EncodeChar_of_lt {c : Char} (h : c.toNat < 0x80) :
    String.utf8EncodeChar c = [UInt8.ofNat c.toNat] := by
  simp only [String.utf8EncodeChar, Char.toNat_val]
  rw [if_pos (by omega)]

/-- Every octet of a character beyond ASCII is beyond ASCII. -/
theorem le_of_mem_utf8EncodeChar {c : Char} (h : 0x80 ≤ c.toNat) {b : UInt8}
    (hb : b ∈ String.utf8EncodeChar c) : 0x80 ≤ b.toNat := by
  simp only [String.utf8EncodeChar, Char.toNat_val] at hb
  rw [if_neg (by omega)] at hb
  split at hb
  · simp only [List.mem_cons, List.not_mem_nil, or_false] at hb
    rcases hb with rfl | rfl <;> simp only [UInt8.toNat_ofNat'] <;> omega
  split at hb
  · simp only [List.mem_cons, List.not_mem_nil, or_false] at hb
    rcases hb with rfl | rfl | rfl <;> simp only [UInt8.toNat_ofNat'] <;> omega
  · simp only [List.mem_cons, List.not_mem_nil, or_false] at hb
    rcases hb with rfl | rfl | rfl | rfl <;> simp only [UInt8.toNat_ofNat'] <;> omega

/-! ## Reading back -/

theorem tail?_ofNat (n : Nat) : tail? (UInt8.ofNat (n % 64 + 0x80)) = some (n % 64) := by
  have hn : (UInt8.ofNat (n % 64 + 0x80)).toNat = n % 64 + 0x80 := by
    rw [UInt8.toNat_ofNat']
    omega
  rw [tail?, hn, if_pos (by omega)]
  simp

theorem scalar?_toNat {c : Char} {least : Nat} (h : least ≤ c.toNat) :
    scalar? least c.toNat = some c := by
  rw [scalar?, if_pos ⟨h, c.valid⟩, Char.ofNat_toNat]

/-- **One character is read, and then the rest.** -/
theorem chars?_append (c : Char) (r : Bytes) :
    chars? (String.utf8EncodeChar c ++ r) = (chars? r).map (c :: ·) := by
  have hmax : c.toNat < 0x110000 := by
    rcases c.valid with h | h <;> simp only [Char.toNat_val] at h <;> omega
  generalize hn : c.toNat = n at hmax
  simp only [String.utf8EncodeChar, Char.toNat_val, hn]
  split
  case isTrue h1 =>
    have ha : (UInt8.ofNat n).toNat = n := by rw [UInt8.toNat_ofNat']; omega
    rw [List.singleton_append, chars?.eq_def]
    simp only [ha, if_pos h1]
    rw [← hn, Char.ofNat_toNat]
  case isFalse h1 =>
  split
  case isTrue h2 =>
    have ha : (UInt8.ofNat (n / 64 % 0x20 + 0xC0)).toNat = n / 64 + 0xC0 := by
      rw [UInt8.toNat_ofNat']; omega
    have hv : (n / 64 + 0xC0 - 0xC0) * 64 + n % 64 = n := by omega
    rw [chars?.eq_def]
    simp only [List.cons_append, List.nil_append, ha, tail?_ofNat]
    rw [if_neg (by omega), if_pos (by omega)]
    simp only [Option.bind_eq_bind, Option.bind_some, hv]
    rw [← hn, scalar?_toNat (by omega)]
    rfl
  case isFalse h2 =>
  split
  case isTrue h3 =>
    have ha : (UInt8.ofNat (n / 4096 % 0x10 + 0xE0)).toNat = n / 4096 + 0xE0 := by
      rw [UInt8.toNat_ofNat']; omega
    have hv : ((n / 4096 + 0xE0 - 0xE0) * 64 + n / 64 % 64) * 64 + n % 64 = n := by omega
    rw [chars?.eq_def]
    simp only [List.cons_append, List.nil_append, ha, tail?_ofNat]
    rw [if_neg (by omega), if_neg (by omega), if_pos (by omega)]
    simp only [Option.bind_eq_bind, Option.bind_some, hv]
    rw [← hn, scalar?_toNat (by omega)]
    rfl
  case isFalse h3 =>
    have ha : (UInt8.ofNat (n / 262144 % 0x08 + 0xF0)).toNat = n / 262144 + 0xF0 := by
      rw [UInt8.toNat_ofNat']; omega
    have hv : (((n / 262144 + 0xF0 - 0xF0) * 64 + n / 4096 % 64) * 64 + n / 64 % 64) * 64 + n % 64
        = n := by omega
    rw [chars?.eq_def]
    simp only [List.cons_append, List.nil_append, ha, tail?_ofNat]
    rw [if_neg (by omega), if_neg (by omega), if_neg (by omega)]
    simp only [Option.bind_eq_bind, Option.bind_some, hv]
    rw [← hn, scalar?_toNat (by omega)]
    rfl

theorem chars?_flatMap (cs : List Char) :
    chars? (cs.flatMap String.utf8EncodeChar) = some cs := by
  induction cs with
  | nil => rfl
  | cons c cs ih => rw [List.flatMap_cons, chars?_append, ih]; rfl

/-- **A text is read back from its octets.** -/
@[simp] theorem decode?_encode (s : String) : decode? (encode s) = some s := by
  rw [decode?, encode, chars?_flatMap, Option.map_some, String.ofList_toList]

theorem encode_injective : Function.Injective encode := fun s t h =>
  Option.some.inj (by rw [← decode?_encode, h, decode?_encode])

end ProofLogin.Utf8
