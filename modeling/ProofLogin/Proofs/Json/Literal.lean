import ProofLogin.Json.Token
import ProofLogin.Json.Literal
import ProofLogin.Proofs.Text.Utf8

/-!
# Proofs/Json/Literal — a text is read back from between its quotes

A character stands between quotes in one of three ways (`Escape`): as a backslash with a letter, as
a backslash with four digits, or as itself.  The reader of strings and the scanner of tokens are
both followed through these three cases, and everything else is concatenation: `unescape?_inner`
reads the text back, and `foldlM_push_flatMap` says that the scanner takes all of it for the inside
of one string.
-/

namespace ProofLogin.Json

/-! ## How a character stands between quotes -/

/-- **The octets that a character stands as between quotes.** -/
inductive Escape (c : Char) : Bytes → Prop
  | letter {e b : UInt8} (he : escaped? e = some b) (hc : String.utf8EncodeChar c = [b]) :
      Escape c [backslash, e]
  | unit {a b : UInt8} (hc : c.toNat < 0x20) (ha : Hex.value? a = some (c.toNat / 16))
      (hb : Hex.value? b = some (c.toNat % 16)) : Escape c [backslash, 0x75, 0x30, 0x30, a, b]
  | plain (h : ∀ b ∈ String.utf8EncodeChar c, b ≠ quote ∧ b ≠ backslash ∧ ¬ b < 0x20) :
      Escape c (String.utf8EncodeChar c)

/-- A character that is neither the quote nor the backslash nor a control stands as itself. -/
theorem Escape.of_plain {c : Char} (hq : c ≠ '"') (hb : c ≠ '\\') (hc : ¬ c.toNat < 0x20) :
    Escape c (String.utf8EncodeChar c) := by
  refine .plain fun b hmem => ?_
  have hn : b.toNat = c.toNat ∨ 0x80 ≤ b.toNat := by
    rcases Nat.lt_or_ge c.toNat 0x80 with h | h
    · rw [Utf8.utf8EncodeChar_of_lt h, List.mem_singleton] at hmem
      subst hmem
      rw [UInt8.toNat_ofNat']
      omega
    · exact .inr (Utf8.le_of_mem_utf8EncodeChar h hmem)
  have hq' : c.toNat ≠ 0x22 := fun h => hq (Char.toNat_inj.mp h)
  have hb' : c.toNat ≠ 0x5C := fun h => hb (Char.toNat_inj.mp h)
  refine ⟨?_, ?_, ?_⟩
  · rintro rfl
    simp only [quote, UInt8.reduceToNat] at hn
    omega
  · rintro rfl
    simp only [backslash, UInt8.reduceToNat] at hn
    omega
  · intro hlt
    have hlt' : b.toNat < 0x20 := UInt8.lt_iff_toNat_lt.mp hlt
    omega

/-- A control without a letter of its own. -/
theorem Escape.of_control {c : Char} (hc : c.toNat < 0x20) :
    Escape c ((escapeUnit c.toNat).flatMap String.utf8EncodeChar) := by
  have hd : (escapeUnit c.toNat).flatMap String.utf8EncodeChar
      = [backslash, 0x75, 0x30, 0x30, UInt8.ofNat (Nat.digitChar (c.toNat / 16)).toNat,
        UInt8.ofNat (Nat.digitChar (c.toNat % 16)).toNat] := by
    generalize c.toNat = n at hc
    revert n
    decide
  rw [hd]
  refine .unit hc ?_ ?_
  · generalize c.toNat = n at hc
    revert n
    decide
  · generalize c.toNat = n at hc
    revert n
    decide

/-- **Every character stands in one of the three ways.** -/
theorem escape_flatMap (c : Char) : Escape c ((escape c).flatMap String.utf8EncodeChar) := by
  have hofNat {n : Nat} (h : c.toNat = n) : c = Char.ofNat n := by rw [← h, Char.ofNat_toNat]
  rw [escape]
  split
  case isTrue h => subst h; exact .letter (e := 0x22) (b := 0x22) rfl rfl
  case isFalse hq =>
  split
  case isTrue h => subst h; exact .letter (e := 0x5C) (b := 0x5C) rfl rfl
  case isFalse hb =>
  split
  case isTrue h => obtain rfl := hofNat h; exact .letter (e := 0x62) (b := 0x08) rfl rfl
  case isFalse =>
  split
  case isTrue h => obtain rfl := hofNat h; exact .letter (e := 0x74) (b := 0x09) rfl rfl
  case isFalse =>
  split
  case isTrue h => obtain rfl := hofNat h; exact .letter (e := 0x6E) (b := 0x0A) rfl rfl
  case isFalse =>
  split
  case isTrue h => obtain rfl := hofNat h; exact .letter (e := 0x66) (b := 0x0C) rfl rfl
  case isFalse =>
  split
  case isTrue h => obtain rfl := hofNat h; exact .letter (e := 0x72) (b := 0x0D) rfl rfl
  case isFalse =>
  split
  case isTrue h => exact .of_control h
  case isFalse h =>
    rw [List.flatMap_singleton]
    exact .of_plain hq hb h

/-! ## Reading the text back -/

theorem hex4?_zero_zero {a b : UInt8} {m n : Nat} (ha : Hex.value? a = some m)
    (hb : Hex.value? b = some n) : hex4? 0x30 0x30 a b = some (m * 16 + n) := by
  have h0 : Hex.value? 0x30 = some 0 := rfl
  simp [hex4?, h0, ha, hb]

theorem pieces?_plain {bs : Bytes} (h : ∀ b ∈ bs, b ≠ backslash) (r : Bytes) :
    pieces? (bs ++ r) = (pieces? r).map (bs.map .octet ++ ·) := by
  induction bs with
  | nil => simp
  | cons b bs ih =>
    have hb : b ≠ 0x5C := h b (by simp)
    rw [List.cons_append, pieces?.eq_def]
    simp only [if_neg hb, ih fun b hb => h b (by simp [hb]), Option.map_map]
    rfl

theorem join?_octets (bs : Bytes) (q : List Piece) :
    join? (bs.map .octet ++ q) = (join? q).map (bs ++ ·) := by
  induction bs with
  | nil => simp
  | cons b bs ih =>
    rw [List.map_cons, List.cons_append, join?, ih, Option.map_map]
    rfl

/-- What is read as a character is joined to its octets, whatever comes after it. -/
theorem Escape.exists_pieces {c : Char} {bs : Bytes} (h : Escape c bs) :
    ∃ ps : List Piece, (∀ r, pieces? (bs ++ r) = (pieces? r).map (ps ++ ·)) ∧
      ∀ q, join? (ps ++ q) = (join? q).map (String.utf8EncodeChar c ++ ·) := by
  cases h with
  | @letter e b he hc =>
    refine ⟨[.octet b], fun r => ?_, fun q => ?_⟩
    · have hu : e ≠ 0x75 := by
        rintro rfl
        cases he
      rw [List.cons_append, List.singleton_append, pieces?.eq_def]
      simp only [backslash, if_true]
      split
      · exact absurd (List.cons.inj ‹_›).1 hu
      · obtain ⟨rfl, rfl⟩ := List.cons.inj ‹_›
        rw [he]
        cases pieces? r <;> rfl
      · contradiction
    · rw [hc]
      rfl
  | @unit a b hlt ha hb =>
    have hn : c.toNat / 16 * 16 + c.toNat % 16 = c.toNat := Nat.div_add_mod' ..
    refine ⟨[.unit c.toNat], fun r => ?_, fun q => ?_⟩
    · rw [pieces?.eq_def]
      simp only [List.cons_append, List.nil_append, backslash, if_true, hex4?_zero_zero ha hb, hn]
      cases pieces? r <;> rfl
    · have hh : isHighSurrogate c.toNat = false := by
        rw [isHighSurrogate, decide_eq_false (by omega), Bool.false_and]
      have hl : isLowSurrogate c.toNat = false := by
        rw [isLowSurrogate, decide_eq_false (by omega), Bool.false_and]
      rw [List.singleton_append, join?.eq_def]
      simp only [hh, hl, Bool.false_eq_true, if_false, Char.ofNat_toNat]
  | plain h =>
    exact ⟨(String.utf8EncodeChar c).map .octet, pieces?_plain fun b hb => (h b hb).2.1,
      join?_octets _⟩

/-- The octets between the quotes of a text. -/
def inner (s : String) : Bytes :=
  s.toList.flatMap fun c => (escape c).flatMap String.utf8EncodeChar

theorem pieces?_flatMap (cs : List Char) :
    ((pieces? (cs.flatMap fun c => (escape c).flatMap String.utf8EncodeChar)).bind join?)
      = some (cs.flatMap String.utf8EncodeChar) := by
  induction cs with
  | nil => rfl
  | cons c cs ih =>
    obtain ⟨ps, hps, hjoin⟩ := (escape_flatMap c).exists_pieces
    obtain ⟨q, hq, hbs⟩ := Option.bind_eq_some_iff.mp ih
    rw [List.flatMap_cons, List.flatMap_cons, hps, hq, Option.map_some, Option.bind_some, hjoin,
      hbs, Option.map_some]

/-- **A text is read back from between its quotes.** -/
@[simp] theorem unescape?_inner (s : String) : unescape? (inner s) = some s := by
  rw [unescape?, inner, pieces?_flatMap, Option.bind_some, ← Utf8.encode, Utf8.decode?_encode]

theorem utf8Encode_literal (s : String) :
    Utf8.encode (String.ofList (literal s)) = quote :: inner s ++ [quote] := by
  rw [literal, Utf8.encode_ofList, List.cons_append, List.flatMap_cons, List.flatMap_append,
    List.flatMap_assoc]
  rfl

/-! ## Scanning a string -/

theorem foldlM_push_plain {bs : Bytes}
    (h : ∀ b ∈ bs, b ≠ quote ∧ b ≠ backslash ∧ ¬ b < 0x20) (read : Bytes) (ts : List Token) :
    bs.foldlM Scanner.push ⟨.quoted read, ts⟩ = some ⟨.quoted (bs.reverse ++ read), ts⟩ := by
  induction bs generalizing read with
  | nil => rfl
  | cons b bs ih =>
    obtain ⟨hq, hb, hc⟩ := h b (by simp)
    have hpush : Scanner.push ⟨.quoted read, ts⟩ b = some ⟨.quoted (b :: read), ts⟩ := by
      simp only [Scanner.push, if_neg hq, if_neg hb, if_neg hc]
    rw [List.foldlM_cons, hpush, Option.bind_eq_bind, Option.bind_some,
      ih fun b hb => h b (by simp [hb])]
    simp

theorem push_letter {e b : UInt8} (he : escaped? e = some b) (read : Bytes) (ts : List Token) :
    Scanner.push ⟨.escaped read, ts⟩ e = some ⟨.quoted (e :: read), ts⟩ := by
  have hu : e ≠ 0x75 := by
    rintro rfl
    cases he
  have hmem : e = quote ∨ e = backslash ∨ e = 0x2F ∨ e = 0x62 ∨ e = 0x66 ∨ e = 0x6E ∨ e = 0x72
      ∨ e = 0x74 := by
    simp only [quote, backslash]
    grind [escaped?]
  simp only [Scanner.push, if_neg hu, if_pos hmem]

theorem push_digit {b : UInt8} {n : Nat} (hb : Hex.value? b = some n) (missing : Nat) (read : Bytes)
    (ts : List Token) :
    Scanner.push ⟨.hex missing read, ts⟩ b
      = some ⟨if missing ≤ 1 then .quoted (b :: read) else .hex (missing - 1) (b :: read), ts⟩ := by
  simp only [Scanner.push, hb, Option.isSome_some, if_true]

theorem Escape.foldlM_push {c : Char} {bs : Bytes} (h : Escape c bs) (read : Bytes)
    (ts : List Token) :
    bs.foldlM Scanner.push ⟨.quoted read, ts⟩ = some ⟨.quoted (bs.reverse ++ read), ts⟩ := by
  cases h with
  | @letter e b he hc =>
    have hopen : Scanner.push ⟨.quoted read, ts⟩ backslash
        = some ⟨.escaped (backslash :: read), ts⟩ := rfl
    rw [List.foldlM_cons, hopen, Option.bind_eq_bind, Option.bind_some, List.foldlM_cons,
      push_letter he]
    rfl
  | @unit a b hlt ha hb =>
    have hopen : [backslash, 0x75, 0x30, 0x30].foldlM Scanner.push ⟨.quoted read, ts⟩
        = some ⟨.hex 2 (0x30 :: 0x30 :: 0x75 :: backslash :: read), ts⟩ := rfl
    have hsplit : [backslash, 0x75, 0x30, 0x30, a, b]
        = [backslash, 0x75, 0x30, 0x30] ++ [a, b] := rfl
    rw [hsplit, List.foldlM_append, hopen, Option.bind_eq_bind, Option.bind_some, List.foldlM_cons,
      push_digit ha, Option.bind_eq_bind, Option.bind_some, List.foldlM_cons]
    simp only [Nat.reduceLeDiff, if_false, Nat.reduceSub, push_digit hb]
    rfl
  | plain h => exact foldlM_push_plain h read ts

theorem foldlM_push_flatMap (cs : List Char) (read : Bytes) (ts : List Token) :
    (cs.flatMap fun c => (escape c).flatMap String.utf8EncodeChar).foldlM Scanner.push
        ⟨.quoted read, ts⟩
      = some ⟨.quoted ((cs.flatMap fun c =>
          (escape c).flatMap String.utf8EncodeChar).reverse ++ read), ts⟩ := by
  induction cs generalizing read with
  | nil => rfl
  | cons c cs ih =>
    rw [List.flatMap_cons, List.foldlM_append, (escape_flatMap c).foldlM_push,
      Option.bind_eq_bind, Option.bind_some, ih, List.reverse_append, List.append_assoc]

/-- **The scanner takes a text between quotes for one string.** -/
theorem foldlM_push_literal (s : String) (ts : List Token) :
    (quote :: inner s ++ [quote]).foldlM Scanner.push ⟨.between, ts⟩
      = some ⟨.between, .quoted (inner s) :: ts⟩ := by
  have hopen : Scanner.push ⟨.between, ts⟩ quote = some ⟨.quoted [], ts⟩ := rfl
  rw [List.cons_append, List.foldlM_cons, hopen, Option.bind_eq_bind, Option.bind_some,
    List.foldlM_append, inner, foldlM_push_flatMap, List.append_nil]
  simp [Scanner.push]

end ProofLogin.Json
