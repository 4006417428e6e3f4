import Mathlib.Data.List.Pairwise
import ProofLogin.Proofs.Json.Literal
import ProofLogin.Proofs.Text.Order

/-!
# Proofs/Json/NameOrder — names in the order of what is written, and in that of code units

    name ──escape──▸ octets between quotes, compared          the order of what is written
    name ──────────▸ code units, compared                     the order of UTF-16

Both are orders of texts under a code.  They differ on two names exactly where the ranks of the
first two characters in which the names differ do (`Swapped`), or where one of the names ends in
front of a character before the quote (`misplaced_iff`).  Names that are in the one order are in the
other one too exactly if no two of them are misplaced (`pairwise_before_iff`); names of letters,
digits and underscores never are (`IsPlainName.not_misplaced`).
-/

namespace ProofLogin.Json

/-! ## Escapes and their ranks -/

/-- The characters that do not stand as themselves between quotes. -/
def escapes : List Char := '"' :: '\\' :: (List.range 0x20).map Char.ofNat

/-- What stands after the backslash. -/
def letter (c : Char) : Char := (escape c).getD 1 c

/-- Where a character stands in the order of what is written for it: escapes are ranked by their
letters, and stand where the backslash would. -/
def writtenRank (c : Char) : Nat :=
  if escape c = [c] then 0x10000 * c.toNat
  else 0x5C0000 + 0x100 * (letter c).toNat + c.toNat

theorem escape_of_plain {c : Char} (hquote : c ≠ '"') (hbackslash : c ≠ '\\')
    (hcontrol : ¬c.toNat < 0x20) : escape c = [c] := by
  rw [escape, if_neg hquote, if_neg hbackslash, if_neg (by omega), if_neg (by omega),
    if_neg (by omega), if_neg (by omega), if_neg (by omega), if_neg hcontrol]

theorem mem_escapes_of_control {c : Char} (h : c.toNat < 0x20) : c ∈ escapes := by
  refine List.mem_cons_of_mem _ (List.mem_cons_of_mem _ ?_)
  exact List.mem_map.mpr ⟨c.toNat, List.mem_range.mpr h, Char.ofNat_toNat c⟩

theorem escape_ne_iff {c : Char} : escape c ≠ [c] ↔ c ∈ escapes := by
  constructor
  · intro h
    by_contra hc
    have hquote : c ≠ '"' := fun heq => hc (heq ▸ List.mem_cons_self)
    have hbackslash : c ≠ '\\' := fun heq =>
      hc (heq ▸ List.mem_cons_of_mem _ List.mem_cons_self)
    exact h (escape_of_plain hquote hbackslash fun hlt => hc (mem_escapes_of_control hlt))
  · have hall : escapes.all fun c => escape c ≠ [c] := by decide +kernel
    simp only [List.all_eq_true, decide_eq_true_iff] at hall
    exact hall c

/-- A character that is escaped is not beyond the backslash, and has a letter of ASCII. -/
theorem bounds_of_escaped {c : Char} (h : escape c ≠ [c]) :
    c.toNat ≤ 0x5C ∧ 0 < (letter c).toNat ∧ (letter c).toNat < 0x80 := by
  have hall : escapes.all fun c =>
      c.toNat ≤ 0x5C ∧ 0 < (letter c).toNat ∧ (letter c).toNat < 0x80 := by decide +kernel
  simp only [List.all_eq_true, decide_eq_true_iff] at hall
  exact hall c (escape_ne_iff.mp h)

/-- A character that stands as itself is no control, and neither the quote nor the backslash. -/
theorem bounds_of_plain {c : Char} (h : escape c = [c]) :
    0x20 ≤ c.toNat ∧ c.toNat ≠ 0x22 ∧ c.toNat ≠ 0x5C := by
  have hmem : c ∉ escapes := fun hc => escape_ne_iff.mpr hc h
  refine ⟨Nat.le_of_not_lt fun hlt => hmem (mem_escapes_of_control hlt), fun heq => ?_,
    fun heq => ?_⟩
  · obtain rfl : c = '"' := Char.toNat_inj.mp heq
    exact hmem (by decide)
  · obtain rfl : c = '\\' := Char.toNat_inj.mp heq
    exact hmem (by decide)

/-- What is written for a character that is escaped begins with the backslash. -/
theorem exists_backslash {c : Char} (h : escape c ≠ [c]) :
    ∃ rest, (escape c).flatMap String.utf8EncodeChar = backslash :: rest := by
  have hall : escapes.all fun c =>
      ((escape c).flatMap String.utf8EncodeChar).head? = some backslash := by decide +kernel
  simp only [List.all_eq_true, decide_eq_true_iff] at hall
  exact List.head?_eq_some_iff.mp (hall c (escape_ne_iff.mp h))

theorem precedes_of_escaped {c c' : Char} (h : escape c ≠ [c]) (h' : escape c' ≠ [c'])
    (hlt : writtenRank c < writtenRank c') :
    Precedes ((escape c).flatMap String.utf8EncodeChar)
      ((escape c').flatMap String.utf8EncodeChar) := by
  have hall : escapes.all fun c => escapes.all fun c' => writtenRank c < writtenRank c' →
      Precedes ((escape c).flatMap String.utf8EncodeChar)
        ((escape c').flatMap String.utf8EncodeChar) := by decide +kernel
  simp only [List.all_eq_true, decide_eq_true_iff] at hall
  exact hall c (escape_ne_iff.mp h) c' (escape_ne_iff.mp h') hlt

theorem writtenRank_of_plain {c : Char} (h : escape c = [c]) :
    writtenRank c = 0x10000 * c.toNat := if_pos h

theorem writtenRank_of_escaped {c : Char} (h : escape c ≠ [c]) :
    writtenRank c = 0x5C0000 + 0x100 * (letter c).toNat + c.toNat := if_neg h

theorem writtenRank_injective : Function.Injective writtenRank := by
  intro c c' h
  rw [← Char.toNat_inj]
  by_cases hc : escape c = [c] <;> by_cases hc' : escape c' = [c']
  · rw [writtenRank_of_plain hc, writtenRank_of_plain hc'] at h
    omega
  · have := bounds_of_escaped hc'
    rw [writtenRank_of_plain hc, writtenRank_of_escaped hc'] at h
    omega
  · have := bounds_of_escaped hc
    rw [writtenRank_of_escaped hc, writtenRank_of_plain hc'] at h
    omega
  · have := bounds_of_escaped hc
    have := bounds_of_escaped hc'
    rw [writtenRank_of_escaped hc, writtenRank_of_escaped hc'] at h
    omega

/-- **What is written for characters comes in the order of their ranks.**  Beside an escape, a
character that stands as itself is compared with the backslash. -/
theorem precedes_of_writtenRank {c c' : Char} (h : writtenRank c < writtenRank c') :
    Precedes ((escape c).flatMap String.utf8EncodeChar)
      ((escape c').flatMap String.utf8EncodeChar) := by
  by_cases hc : escape c = [c] <;> by_cases hc' : escape c' = [c']
  · rw [writtenRank_of_plain hc, writtenRank_of_plain hc'] at h
    rw [hc, hc', List.flatMap_singleton, List.flatMap_singleton]
    exact Utf8.precedes_utf8EncodeChar (by omega)
  · obtain ⟨rest, hrest⟩ := exists_backslash hc'
    have := bounds_of_plain hc
    have := bounds_of_escaped hc'
    rw [writtenRank_of_plain hc, writtenRank_of_escaped hc'] at h
    rw [hrest, hc, List.flatMap_singleton]
    have : c.toNat < '\\'.toNat := by simp only [Char.reduceToNat]; omega
    exact (Utf8.precedes_utf8EncodeChar this).cons_right rest
  · obtain ⟨rest, hrest⟩ := exists_backslash hc
    have := bounds_of_plain hc'
    rw [writtenRank_of_escaped hc, writtenRank_of_plain hc'] at h
    rw [hrest, hc', List.flatMap_singleton]
    have : '\\'.toNat < c'.toNat := by simp only [Char.reduceToNat]; omega
    exact (Utf8.precedes_utf8EncodeChar this).cons_left rest
  · exact precedes_of_escaped hc hc' h

/-- **What is written for a character**, in the order of the ranks. -/
def written : CharCode UInt8 where
  units c := (escape c).flatMap String.utf8EncodeChar
  rank := writtenRank
  ne_nil c := by
    by_cases hc : escape c = [c]
    · rw [hc, List.flatMap_singleton]
      exact Utf8.utf8EncodeChar_ne_nil c
    · obtain ⟨rest, hrest⟩ := exists_backslash hc
      rw [hrest]
      exact List.cons_ne_nil _ _
  rank_injective := writtenRank_injective
  precedes := precedes_of_writtenRank

/-! ## The order of names -/

/-- The order of names as they are written: the octets of the quoted and escaped name. -/
def WrittenBefore (k k' : String) : Prop :=
  Utf8.encode (String.ofList (literal k)) < Utf8.encode (String.ofList (literal k'))

/-- Names are compared by what is written for their characters, and by the quote at the end. -/
theorem writtenBefore_iff {k k' : String} : WrittenBefore k k' ↔
    written.encode k.toList ++ [quote] < written.encode k'.toList ++ [quote] := by
  rw [WrittenBefore, utf8Encode_literal, utf8Encode_literal, List.cons_append, List.cons_append,
    List.cons_lt_cons_self]
  rfl

theorem writtenBefore_or {k k' : String} (hne : k ≠ k') :
    WrittenBefore k k' ∨ WrittenBefore k' k := by
  obtain hlt | heq | hgt := Std.lt_trichotomy (Utf8.encode (String.ofList (literal k)))
    (Utf8.encode (String.ofList (literal k')))
  · exact .inl hlt
  · rw [utf8Encode_literal, utf8Encode_literal] at heq
    have hinner : inner k = inner k' := List.append_inj_left' (List.cons.inj heq).2 rfl
    have hk : some k = some k' := by rw [← unescape?_inner, hinner, unescape?_inner]
    exact absurd (Option.some.inj hk) hne
  · exact .inr hgt

/-! ## Where the orders differ -/

/-- **Two characters of which the first one comes first in code units, and the second one as they
are written.** -/
inductive Swapped (c c' : Char) : Prop
  /-- The first one is escaped, and the other one stands as itself before the backslash. -/
  | escaped (hc : escape c ≠ [c]) (hc' : escape c' = [c']) (h : c < c') (hb : c' < '\\')
  /-- Both are escaped, with letters that are in the other order. -/
  | letters (hc : escape c ≠ [c]) (hc' : escape c' ≠ [c']) (h : c < c') (hl : letter c' < letter c)
  /-- The first one has surrogates, and the other one is beyond all surrogates. -/
  | planes (hc : 0x10000 ≤ c.toNat) (hc' : 0xE000 ≤ c'.toNat ∧ c'.toNat < 0x10000)

/-- **Two names of which the first one comes first in code units, and the second one as they are
written.** -/
inductive Misplaced : List Char → List Char → Prop
  /-- The first one ends before a character that comes before the quote. -/
  | ends {c' : Char} (h : c' = ' ' ∨ c' = '!') (cs' : List Char) : Misplaced [] (c' :: cs')
  /-- The first characters in which they differ are swapped. -/
  | differ {c c' : Char} (h : Swapped c c') (cs cs' : List Char) : Misplaced (c :: cs) (c' :: cs')
  | cons (c : Char) {cs cs' : List Char} (h : Misplaced cs cs') : Misplaced (c :: cs) (c :: cs')

theorem char_lt_iff {c c' : Char} : c < c' ↔ c.toNat < c'.toNat := UInt32.lt_iff_toNat_lt

theorem Swapped.ranks {c c' : Char} (h : Swapped c c') :
    Utf16.rank c < Utf16.rank c' ∧ writtenRank c' < writtenRank c := by
  cases h with
  | escaped hc hc' h hb =>
    have := bounds_of_escaped hc
    rw [char_lt_iff] at h hb
    simp only [Char.reduceToNat] at hb
    rw [Utf16.rank_of_lt (by omega), Utf16.rank_of_lt (by omega), writtenRank_of_escaped hc,
      writtenRank_of_plain hc']
    omega
  | letters hc hc' h hl =>
    have := bounds_of_escaped hc
    have := bounds_of_escaped hc'
    rw [char_lt_iff] at h hl
    rw [Utf16.rank_of_lt (by omega), Utf16.rank_of_lt (by omega), writtenRank_of_escaped hc,
      writtenRank_of_escaped hc']
    omega
  | planes hc hc' =>
    have := Utf8.toNat_cases c
    have hplain (c : Char) (h : 0x5C < c.toNat) : escape c = [c] := by
      by_contra hne
      have := bounds_of_escaped hne
      omega
    rw [writtenRank_of_plain (hplain c (by omega)), writtenRank_of_plain (hplain c' (by omega)),
      Utf16.rank, Utf16.rank, if_neg (by omega), if_pos hc']
    omega

/-- Where no character is escaped, both orders follow the numbers, but for the surrogates. -/
theorem swapped_of_ranks {c c' : Char} (hunits : Utf16.rank c < Utf16.rank c')
    (hwritten : writtenRank c' < writtenRank c) : Swapped c c' := by
  by_cases hc : escape c = [c] <;> by_cases hc' : escape c' = [c']
  · have := Utf8.toNat_cases c
    have := Utf8.toNat_cases c'
    rw [writtenRank_of_plain hc, writtenRank_of_plain hc'] at hwritten
    rw [Utf16.rank, Utf16.rank] at hunits
    exact .planes (by split_ifs at hunits <;> omega) (by split_ifs at hunits <;> omega)
  · have := bounds_of_plain hc
    have := bounds_of_escaped hc'
    rw [writtenRank_of_plain hc, writtenRank_of_escaped hc'] at hwritten
    have hle := Utf16.toNat_le_rank c
    rw [Utf16.rank_of_lt (show c'.toNat < 0xE000 by omega)] at hunits
    omega
  · have := bounds_of_escaped hc
    have := bounds_of_plain hc'
    rw [writtenRank_of_escaped hc, writtenRank_of_plain hc'] at hwritten
    have hlt : c'.toNat < 0x5C := by omega
    rw [Utf16.rank_of_lt (by omega), Utf16.rank_of_lt (by omega)] at hunits
    exact .escaped hc hc' (char_lt_iff.mpr hunits) (char_lt_iff.mpr hlt)
  · have := bounds_of_escaped hc
    have := bounds_of_escaped hc'
    rw [writtenRank_of_escaped hc, writtenRank_of_escaped hc'] at hwritten
    rw [Utf16.rank_of_lt (by omega), Utf16.rank_of_lt (by omega)] at hunits
    exact .letters hc hc' (char_lt_iff.mpr hunits) (char_lt_iff.mpr (by omega))

/-- **Swapped characters are those whose ranks are in the two orders.** -/
theorem swapped_iff {c c' : Char} :
    Swapped c c' ↔ Utf16.rank c < Utf16.rank c' ∧ writtenRank c' < writtenRank c :=
  ⟨Swapped.ranks, fun h => swapped_of_ranks h.1 h.2⟩

/-- **A name that ends stands before the quote of another one**, unless a blank or an exclamation
mark follows there. -/
theorem append_lt_quote_iff {c : Char} {s : Bytes} :
    written.units c ++ s < [quote] ↔ c = ' ' ∨ c = '!' := by
  by_cases hc : escape c = [c]
  · have hbounds := bounds_of_plain hc
    have hunits : written.units c = Utf8.code.units c := by
      change (escape c).flatMap String.utf8EncodeChar = String.utf8EncodeChar c
      rw [hc, List.flatMap_singleton]
    have hquote : c ≠ '"' := fun h => hbounds.2.1 (congrArg Char.toNat h)
    have hlt : Utf8.code.units c ++ s < [quote] ↔ c.toNat < 0x22 :=
      CharCode.append_lt_append_iff hquote s []
    rw [hunits, hlt, ← Char.toNat_inj, ← Char.toNat_inj]
    simp only [Char.reduceToNat]
    omega
  · refine iff_of_false (fun h => ?_) ?_
    · obtain ⟨rest, hrest⟩ := exists_backslash hc
      have hunits : written.units c = backslash :: rest := hrest
      rw [hunits, List.cons_append, List.cons_lt_cons_iff] at h
      exact h.elim (by decide) fun h => absurd h.1 (by decide)
    · rintro (rfl | rfl) <;> exact hc rfl

theorem misplaced_iff {cs cs' : List Char} :
    Misplaced cs cs' ↔ Utf16.code.encode cs < Utf16.code.encode cs'
      ∧ written.encode cs' ++ [quote] < written.encode cs ++ [quote] := by
  induction cs generalizing cs' with
  | nil =>
    cases cs' with
    | nil =>
      refine iff_of_false (fun h => nomatch h) fun h => ?_
      exact List.lt_irrefl _ h.1
    | cons c' cs' =>
      have hunits : [] < Utf16.code.units c' ++ Utf16.code.encode cs' :=
        CharCode.nil_lt_append c' _
      simp only [CharCode.encode_nil, CharCode.encode_cons, List.nil_append, List.append_assoc,
        append_lt_quote_iff, hunits, true_and]
      exact ⟨fun h => by cases h; assumption, fun h => .ends h cs'⟩
  | cons c cs ih =>
    cases cs' with
    | nil => exact iff_of_false (fun h => nomatch h) fun h => List.not_lt_nil _ h.1
    | cons c' cs' =>
      simp only [CharCode.encode_cons, List.append_assoc]
      by_cases hc : c = c'
      · subst hc
        rw [CharCode.append_lt_append_left, CharCode.append_lt_append_left, ← ih]
        refine ⟨fun h => ?_, .cons c⟩
        cases h with
        | differ h =>
          obtain ⟨hlt, -⟩ := swapped_iff.mp h
          exact absurd hlt (Nat.lt_irrefl _)
        | cons _ h => exact h
      · rw [CharCode.append_lt_append_iff hc, CharCode.append_lt_append_iff (Ne.symm hc)]
        refine ⟨fun h => ?_, fun h => .differ (swapped_iff.mpr h) cs cs'⟩
        cases h with
        | differ h => exact swapped_iff.mp h
        | cons _ h => exact absurd rfl hc

instance (cs cs' : List Char) : Decidable (Misplaced cs cs') :=
  decidable_of_iff' _ misplaced_iff

/-- **Names that are in the order of what is written are in that of code units** as well, exactly
if no two of them are misplaced. -/
theorem pairwise_before_iff {names : List String} (hn : names.Nodup)
    (hwritten : names.Pairwise WrittenBefore) :
    names.Pairwise Utf16.Before
      ↔ ∀ k ∈ names, ∀ k' ∈ names, ¬Misplaced k.toList k'.toList := by
  have hmisplaced {k k' : String} :
      Misplaced k.toList k'.toList ↔ Utf16.Before k k' ∧ WrittenBefore k' k := by
    rw [misplaced_iff, writtenBefore_iff]
    rfl
  simp only [hmisplaced]
  constructor
  · intro hunits k hk k' hk' ⟨hlt, hgt⟩
    have hsymm : Std.Symm fun a b => (Utf16.Before a b ∧ WrittenBefore a b)
        ∨ Utf16.Before b a ∧ WrittenBefore b a := ⟨fun _ _ => Or.symm⟩
    have hboth : names.Pairwise fun a b => (Utf16.Before a b ∧ WrittenBefore a b)
        ∨ Utf16.Before b a ∧ WrittenBefore b a := (hunits.and hwritten).imp Or.inl
    have hne : k ≠ k' := fun h => List.lt_irrefl _ (h ▸ hlt)
    obtain ⟨-, hlt'⟩ | ⟨hgt', -⟩ := hboth.forall hk hk' hne
    · exact List.lt_asymm hgt hlt'
    · exact hlt.asymm hgt'
  · intro h
    refine (hwritten.and hn).imp_of_mem fun hk hk' ⟨hlt, hne⟩ => ?_
    exact (Utf16.before_or_before hne).resolve_right fun hgt => h _ hk' _ hk ⟨hgt, hlt⟩

/-- **A name without blanks and escapes**, of characters before the surrogates. -/
def IsPlainName (k : String) : Prop :=
  ∀ c ∈ k.toList, '"' < c ∧ c.toNat < 0xD800 ∧ escape c = [c]

instance (k : String) : Decidable (IsPlainName k) :=
  List.decidableBAll _ k.toList

/-- **Plain names are in one order.** -/
theorem IsPlainName.not_misplaced {k k' : String} (h : IsPlainName k) (h' : IsPlainName k') :
    ¬Misplaced k.toList k'.toList := by
  rw [IsPlainName] at h h'
  generalize k.toList = cs at h
  generalize k'.toList = cs' at h'
  intro hmisplaced
  induction hmisplaced with
  | ends hc =>
    have := (h' _ List.mem_cons_self).1
    obtain rfl | rfl := hc <;> exact absurd this (by decide)
  | differ hswapped =>
    have hc := h _ List.mem_cons_self
    cases hswapped with
    | escaped hne => exact hne hc.2.2
    | letters hne => exact hne hc.2.2
    | planes hplane => omega
  | cons _ _ ih => exact ih (List.forall_mem_cons.mp h).2 (List.forall_mem_cons.mp h').2

end ProofLogin.Json
