import ProofLogin.Encoding.Base64Url
import ProofLogin.Proofs.Outcome
import ProofLogin.Proofs.Text.Utf8

/-!
# Proofs/Encoding/Base64Url — octets have one text

`decode_encode` is the round trip, and `decode_eq_ok_iff` says that nothing else is read: no text
with pad signs, with stray symbols or with unused bits that are not zero.  `symbols` and
`decodeFrom` both go by groups, three octets against four symbols, so both inductions are on the
groups: whole groups are read one after the other, and only the last one meets `decodeLast`.
-/

namespace ProofLogin.Base64Url

/-! ## Symbols -/

theorem value?_symbol : ∀ n < 64, value? (symbol n) = some n := by decide

theorem symbol_ne_padSign : ∀ n < 64, symbol n ≠ padSign := by decide

theorem utf8EncodeChar_symbol :
    ∀ n < 64, String.utf8EncodeChar (Char.ofNat (symbol n).toNat) = [symbol n] := by decide

theorem ofNat_toNat_symbol_ne : ∀ n < 64, Char.ofNat (symbol n).toNat ≠ '.' := by decide

theorem valueAt_symbol (i : Nat) {n : Nat} (h : n < 64) : valueAt i (symbol n) = .ok n := by
  rw [valueAt, value?_symbol n h]

/-- **Every symbol stands for six bits.** -/
theorem exists_symbol_of_mem {bs : Bytes} {s : UInt8} (h : s ∈ symbols bs) :
    ∃ n < 64, s = symbol n := by
  fun_induction symbols bs with
  | case1 => simp at h
  | case2 a =>
    have ha := a.toNat_lt
    simp only [List.mem_cons, List.not_mem_nil, or_false] at h
    rcases h with rfl | rfl
    · exact ⟨_, by omega, rfl⟩
    · exact ⟨_, by omega, rfl⟩
  | case3 a b n =>
    have ha := a.toNat_lt
    have hb := b.toNat_lt
    simp only [List.mem_cons, List.not_mem_nil, or_false] at h
    rcases h with rfl | rfl | rfl
    · exact ⟨_, by omega, rfl⟩
    · exact ⟨_, by omega, rfl⟩
    · exact ⟨_, by omega, rfl⟩
  | case4 a b c r n ih =>
    have ha := a.toNat_lt
    have hb := b.toNat_lt
    have hc := c.toNat_lt
    simp only [List.mem_cons] at h
    rcases h with rfl | rfl | rfl | rfl | h
    · exact ⟨_, by omega, rfl⟩
    · exact ⟨_, by omega, rfl⟩
    · exact ⟨_, by omega, rfl⟩
    · exact ⟨_, by omega, rfl⟩
    · exact ih h

theorem utf8Encode_encode (bs : Bytes) : Utf8.encode (encode bs) = symbols bs := by
  have hs : ∀ s ∈ symbols bs, String.utf8EncodeChar (Char.ofNat s.toNat) = [s] := by
    intro s hs
    obtain ⟨n, hn, rfl⟩ := exists_symbol_of_mem hs
    exact utf8EncodeChar_symbol n hn
  rw [encode, Utf8.encode_ofList, List.flatMap_map, List.flatMap_def, List.map_congr_left hs,
    ← List.flatMap_def, List.flatMap_singleton']

/-- There is no point among the symbols. -/
theorem point_notMem_encode (bs : Bytes) : '.' ∉ (encode bs).toList := by
  intro h
  rw [encode, String.toList_ofList, List.mem_map] at h
  obtain ⟨s, hs, hp⟩ := h
  obtain ⟨n, hn, rfl⟩ := exists_symbol_of_mem hs
  exact ofNat_toNat_symbol_ne n hn hp

/-! ## The last group -/

theorem LastGroup.push_symbol (start : Nat) (ps : List (UInt8 × Nat)) {n : Nat} (hn : n < 64)
    (i : Nat) :
    LastGroup.push start ⟨ps, none⟩ (symbol n) i = .ok ⟨ps ++ [(symbol n, n)], none⟩ := by
  rw [push, if_neg (symbol_ne_padSign n hn)]
  simp only [value?_symbol n hn]

/-- The values of symbols are collected in order. -/
theorem foldlM_push_symbols (start i : Nat) (ps : List (UInt8 × Nat)) {ns : List Nat}
    (h : ∀ n ∈ ns, n < 64) :
    ((ns.map symbol).zipIdx i).foldlM (fun g (b, i) => LastGroup.push start g b i) ⟨ps, none⟩
      = .ok ⟨ps ++ ns.map fun n => (symbol n, n), none⟩ := by
  induction ns generalizing i ps with
  | nil => simp [pure, Except.pure]
  | cons n ns ih =>
    rw [List.map_cons, List.zipIdx_cons, List.foldlM_cons]
    simp only [LastGroup.push_symbol start ps (h n (by simp))]
    exact (ih (i + 1) _ fun m hm => h m (by simp [hm])).trans (by simp)

/-- **A last group of at least two symbols is read by its values.** -/
theorem decodeLast_symbols (start : Nat) (ns : List Nat) (h : ∀ n ∈ ns, n < 64)
    (h2 : 2 ≤ ns.length) :
    decodeLast start (ns.map symbol) = LastGroup.octets start (ns.map fun n => (symbol n, n)) := by
  rw [decodeLast, foldlM_push_symbols start start [] h]
  simp only [bind, Except.bind, List.nil_append, List.length_map]
  rw [if_neg (by omega)]
  rfl

theorem decodeLast_one (start : Nat) (a : UInt8) : decodeLast start (symbols [a]) = .ok [a] := by
  have ha := a.toNat_lt
  refine (decodeLast_symbols start [a.toNat / 4, a.toNat % 4 * 16] ?_ (by simp)).trans ?_
  · simp only [List.mem_cons, List.not_mem_nil, or_false]
    rintro n (rfl | rfl) <;> omega
  · simp only [List.map_cons, List.map_nil, LastGroup.octets]
    rw [if_pos (by omega), show a.toNat / 4 * 4 + a.toNat % 4 * 16 / 16 = a.toNat by omega,
      UInt8.ofNat_toNat]

theorem ofNat_eq {n : Nat} {a : UInt8} (h : n % 256 = a.toNat) : UInt8.ofNat n = a := by
  rw [← UInt8.toNat_inj, UInt8.toNat_ofNat']
  exact h

theorem decodeLast_two (start : Nat) (a b : UInt8) :
    decodeLast start (symbols [a, b]) = .ok [a, b] := by
  have ha := a.toNat_lt
  have hb := b.toNat_lt
  refine (decodeLast_symbols start [(a.toNat * 256 + b.toNat) / 1024,
    (a.toNat * 256 + b.toNat) / 16 % 64, (a.toNat * 256 + b.toNat) % 16 * 4] ?_ (by simp)).trans ?_
  · simp only [List.mem_cons, List.not_mem_nil, or_false]
    rintro n (rfl | rfl | rfl) <;> omega
  · simp only [List.map_cons, List.map_nil, LastGroup.octets]
    rw [if_pos (by omega), ofNat_eq (a := a) (by omega), ofNat_eq (a := b) (by omega)]

theorem decodeLast_three (start : Nat) (a b c : UInt8) :
    decodeLast start (symbols [a, b, c]) = .ok [a, b, c] := by
  have ha := a.toNat_lt
  have hb := b.toNat_lt
  have hc := c.toNat_lt
  generalize hn : (a.toNat * 256 + b.toNat) * 256 + c.toNat = n
  refine Eq.trans ?_ ((decodeLast_symbols start [n / 262144, n / 4096 % 64, n / 64 % 64,
    n % 64] ?_ (by simp)).trans ?_)
  · simp only [symbols, hn, List.map_cons, List.map_nil]
  · simp only [List.mem_cons, List.not_mem_nil, or_false]
    rintro m (rfl | rfl | rfl | rfl) <;> omega
  · simp only [List.map_cons, List.map_nil, LastGroup.octets]
    rw [ofNat_eq (a := a) (by omega), ofNat_eq (a := b) (by omega), ofNat_eq (a := c) (by omega)]

/-! ## Whole groups -/

theorem decodeFrom_short (i : Nat) {a b : UInt8} {bs : Bytes} (h : bs.length ≤ 2) :
    decodeFrom i (a :: b :: bs) = decodeLast i (a :: b :: bs) := by
  match bs, h with
  | [], _ => rfl
  | [_], _ => rfl
  | [_, _], _ => rfl

theorem symbols_eq_nil_iff {bs : Bytes} : symbols bs = [] ↔ bs = [] := by
  fun_cases symbols bs <;> simp

/-- **The groups are read one after the other.** -/
theorem decodeFrom_symbols (i : Nat) (bs : Bytes) : decodeFrom i (symbols bs) = .ok bs := by
  fun_induction symbols bs generalizing i with
  | case1 => rfl
  | case2 a => exact (decodeFrom_short i (by simp)).trans (decodeLast_one i a)
  | case3 a b n => exact (decodeFrom_short i (by simp)).trans (decodeLast_two i a b)
  | case4 a b c r n ih =>
    have ha := a.toNat_lt
    have hb := b.toNat_lt
    have hc := c.toNat_lt
    cases hr : symbols r with
    | nil =>
      obtain rfl : r = [] := symbols_eq_nil_iff.mp hr
      exact (decodeFrom_short i (by simp)).trans (decodeLast_three i a b c)
    | cons e s =>
      have hrest : decodeFrom (i + 4) (e :: s) = .ok r := by rw [← hr]; exact ih (i + 4)
      have hv : ((n / 262144 * 64 + n / 4096 % 64) * 64 + n / 64 % 64) * 64 + n % 64 = n := by
        omega
      rw [decodeFrom, valueAt_symbol i (by omega), valueAt_symbol (i + 1) (by omega),
        valueAt_symbol (i + 2) (by omega), valueAt_symbol (i + 3) (by omega), hrest]
      simp only [bind, Except.bind, pure, Except.pure, hv]
      rw [ofNat_eq (a := a) (by omega), ofNat_eq (a := b) (by omega), ofNat_eq (a := c) (by omega)]

/-- No octet string has one symbol after whole groups. -/
theorem length_symbols_mod (bs : Bytes) : (symbols bs).length % 4 ≠ 1 := by
  fun_induction symbols bs with
  | case1 => decide
  | case2 => simp
  | case3 => simp
  | case4 a b c r n ih =>
    simp only [List.length_cons]
    omega

/-- **Octets are read back from their symbols.** -/
@[simp] theorem decode_encode (bs : Bytes) : decode (encode bs) = .ok bs := by
  rw [decode, utf8Encode_encode, decodeBytes]
  cases hs : (symbols bs).getLast? with
  | none =>
    obtain rfl : bs = [] := symbols_eq_nil_iff.mp (List.getLast?_eq_none_iff.mp hs)
    rfl
  | some b =>
    simp only
    rw [if_neg fun h => length_symbols_mod bs h.1, decodeFrom_symbols]

/-! ## The only spelling -/

/-- **A symbol is the one of its value.** -/
theorem eq_symbol_of_value? {b : UInt8} {n : Nat} (h : value? b = some n) :
    n < 64 ∧ b = symbol n := by
  have htable : ∀ m < 256, ∀ n ∈ value? (UInt8.ofNat m), n < 64 ∧ UInt8.ofNat m = symbol n := by
    decide +kernel
  have hb := htable b.toNat b.toNat_lt n
  rw [UInt8.ofNat_toNat] at hb
  exact hb h

theorem eq_symbol_of_valueAt {i : Nat} {b : UInt8} {n : Nat} (h : valueAt i b = .ok n) :
    n < 64 ∧ b = symbol n := by
  rw [valueAt] at h
  split at h
  case h_1 hb =>
    cases h
    exact eq_symbol_of_value? hb
  case h_2 => cases h

/-- Four values are the symbols of the three octets that they make. -/
theorem symbols_group {w x y z : Nat} (hw : w < 64) (hx : x < 64) (hy : y < 64) (hz : z < 64)
    (r : Bytes) :
    symbols (UInt8.ofNat ((((w * 64 + x) * 64 + y) * 64 + z) / 65536)
        :: UInt8.ofNat ((((w * 64 + x) * 64 + y) * 64 + z) / 256)
        :: UInt8.ofNat (((w * 64 + x) * 64 + y) * 64 + z) :: r)
      = symbol w :: symbol x :: symbol y :: symbol z :: symbols r := by
  generalize hn : ((w * 64 + x) * 64 + y) * 64 + z = n
  have hoctets : ((UInt8.ofNat (n / 65536)).toNat * 256 + (UInt8.ofNat (n / 256)).toNat) * 256
      + (UInt8.ofNat n).toNat = n := by
    simp only [UInt8.toNat_ofNat']
    omega
  have hw' : n / 262144 = w := by omega
  have hx' : n / 4096 % 64 = x := by omega
  have hy' : n / 64 % 64 = y := by omega
  have hz' : n % 64 = z := by omega
  simp only [symbols, hoctets, hw', hx', hy', hz']

/-- **One octet more of a last group** is a pad sign, or a symbol before any pad sign. -/
theorem LastGroup.push_cases {start i : Nat} {g g' : LastGroup} {b : UInt8}
    (h : g.push start b i = .ok g') :
    g'.pad ≠ none ∨ g.pad = none ∧ ∃ n < 64, b = symbol n
      ∧ g' = ⟨g.symbols ++ [(symbol n, n)], none⟩ := by
  rw [push] at h
  split at h
  case isTrue =>
    obtain ⟨-, h⟩ := Outcome.ite_error_eq_ok.mp h
    cases h
    exact .inl (Option.some_ne_none _)
  case isFalse =>
    split at h
    case h_1 => cases h
    case h_2 hpad =>
      split at h
      case h_1 n hb =>
        obtain ⟨hn, rfl⟩ := eq_symbol_of_value? hb
        cases h
        exact .inr ⟨hpad, n, hn, rfl, by rw [hpad]⟩
      case h_2 => cases h

/-- A last group that ends without a pad sign began without one and consists of symbols. -/
theorem exists_symbols_of_foldlM {start i : Nat} {bs : Bytes} {g g' : LastGroup}
    (h : (bs.zipIdx i).foldlM (fun g (b, i) => LastGroup.push start g b i) g = .ok g')
    (hpad : g'.pad = none) :
    g.pad = none ∧ ∃ ns : List Nat, (∀ n ∈ ns, n < 64) ∧ bs = ns.map symbol
      ∧ g'.symbols = g.symbols ++ ns.map fun n => (symbol n, n) := by
  induction bs generalizing i g with
  | nil =>
    cases h
    exact ⟨hpad, [], by simp⟩
  | cons b bs ih =>
    rw [List.zipIdx_cons, List.foldlM_cons] at h
    obtain ⟨g₁, hpush, hrest⟩ := Outcome.bind_eq_ok.mp h
    obtain ⟨hpad₁, ns, hns, rfl, hsymbols⟩ := ih hrest
    obtain hne | ⟨hnone, n, hn, rfl, rfl⟩ := LastGroup.push_cases hpush
    · exact absurd hpad₁ hne
    · exact ⟨hnone, n :: ns, List.forall_mem_cons.mpr ⟨hn, hns⟩, rfl, by simp [hsymbols]⟩

/-- Values without unused bits are the symbols of the octets that they make. -/
theorem map_symbol_eq_of_octets {start : Nat} {ns : List Nat} {octets : Bytes}
    (hns : ∀ n ∈ ns, n < 64)
    (h : LastGroup.octets start (ns.map fun n => (symbol n, n)) = .ok octets) :
    ns.map symbol = symbols octets := by
  match ns with
  | [] | [_] => cases h
  | [a, b] =>
    simp only [List.mem_cons, List.not_mem_nil, or_false, forall_eq_or_imp, forall_eq] at hns
    obtain ⟨hunused, h⟩ := Outcome.ite_ok_eq_ok.mp h
    cases h
    have hoctet : (UInt8.ofNat (a * 4 + b / 16)).toNat = a * 4 + b / 16 := by
      rw [UInt8.toNat_ofNat']
      omega
    have ha : (a * 4 + b / 16) / 4 = a := by omega
    have hb : (a * 4 + b / 16) % 4 * 16 = b := by omega
    simp only [symbols, hoctet, ha, hb, List.map_cons, List.map_nil]
  | [a, b, c] =>
    simp only [List.mem_cons, List.not_mem_nil, or_false, forall_eq_or_imp, forall_eq] at hns
    obtain ⟨hunused, h⟩ := Outcome.ite_ok_eq_ok.mp h
    cases h
    generalize hn : (a * 64 + b) * 64 + c = n
    have hoctets : (UInt8.ofNat (n / 1024)).toNat * 256 + (UInt8.ofNat (n / 4)).toNat = n / 4 := by
      simp only [UInt8.toNat_ofNat']
      omega
    have ha : n / 4 / 1024 = a := by omega
    have hb : n / 4 / 16 % 64 = b := by omega
    have hc : n / 4 % 16 * 4 = c := by omega
    simp only [symbols, hoctets, ha, hb, hc, List.map_cons, List.map_nil]
  | [a, b, c, d] =>
    simp only [List.mem_cons, List.not_mem_nil, or_false, forall_eq_or_imp, forall_eq] at hns
    cases h
    exact (symbols_group hns.1 hns.2.1 hns.2.2.1 hns.2.2.2 []).symm
  | _ :: _ :: _ :: _ :: _ :: _ => cases h

/-- **A last group that is read is the symbols of what it is read as.** -/
theorem eq_symbols_of_decodeLast {start : Nat} {bs octets : Bytes}
    (h : decodeLast start bs = .ok octets) : bs = symbols octets := by
  rw [decodeLast] at h
  obtain ⟨g, hfold, hlast⟩ := Outcome.bind_eq_ok.mp h
  obtain ⟨-, hlast⟩ := Outcome.ite_error_eq_ok.mp hlast
  obtain ⟨hpad, hlast⟩ := Outcome.ite_error_eq_ok.mp hlast
  obtain ⟨-, ns, hns, hbs, hsymbols⟩ := exists_symbols_of_foldlM hfold (by simpa using hpad)
  rw [hsymbols] at hlast
  exact hbs.trans (map_symbol_eq_of_octets hns hlast)

/-- **The groups that are read are the symbols of what they are read as.** -/
theorem eq_symbols_of_decodeFrom {i : Nat} {bs octets : Bytes}
    (h : decodeFrom i bs = .ok octets) : bs = symbols octets := by
  fun_induction decodeFrom i bs generalizing octets with
  | case1 i a b c d e r ih =>
    obtain ⟨w, hw, h⟩ := Outcome.bind_eq_ok.mp h
    obtain ⟨x, hx, h⟩ := Outcome.bind_eq_ok.mp h
    obtain ⟨y, hy, h⟩ := Outcome.bind_eq_ok.mp h
    obtain ⟨z, hz, h⟩ := Outcome.bind_eq_ok.mp h
    obtain ⟨rest, hrest, h⟩ := Outcome.bind_eq_ok.mp h
    obtain rfl := Outcome.pure_eq_ok.mp h
    obtain ⟨hw', rfl⟩ := eq_symbol_of_valueAt hw
    obtain ⟨hx', rfl⟩ := eq_symbol_of_valueAt hx
    obtain ⟨hy', rfl⟩ := eq_symbol_of_valueAt hy
    obtain ⟨hz', rfl⟩ := eq_symbol_of_valueAt hz
    rw [symbols_group hw' hx' hy' hz', ih hrest]
  | case2 i =>
    cases h
    rfl
  | case3 i bs => exact eq_symbols_of_decodeLast h

/-- **The texts that are read are the texts that are written**: no octet string has two. -/
theorem decode_eq_ok_iff {s : String} {octets : Bytes} :
    decode s = .ok octets ↔ s = encode octets := by
  refine ⟨fun h => Utf8.encode_injective ?_, fun h => h ▸ decode_encode octets⟩
  rw [utf8Encode_encode]
  rw [decode, decodeBytes] at h
  split at h
  case h_1 hnil =>
    cases h
    exact List.getLast?_eq_none_iff.mp hnil
  case h_2 => exact eq_symbols_of_decodeFrom (Outcome.ite_error_eq_ok.mp h).2

theorem encode_injective : Function.Injective encode := fun bs bs' h =>
  Except.ok.inj ((decode_encode bs).symm.trans (h ▸ decode_encode bs'))

end ProofLogin.Base64Url
