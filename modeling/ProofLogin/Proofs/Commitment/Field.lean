import Mathlib.Data.Nat.Digits.Defs
import Mathlib.Tactic.MkIffOfInductiveProp
import ProofLogin.Commitment.Field
import ProofLogin.Proofs.Json.Record
import ProofLogin.Proofs.Text.Digits

/-!
# Proofs/Commitment/Field — a field element has one text, and octets of its own

The texts that are read are the ones that are written (`ofDecimal_eq_ok_iff`).  `IsSpelling` says
which these are without a reader and a writer: the digits of an integer below the modulus, without a
zero too many in front.  A number from the modulus on has the text of no element, although every
number stands for one: what it is reduced to has another text.  `one_text_per_value` puts texts and
octets together.
-/

namespace ProofLogin

namespace Text

/-- **The number that digits denote**, the last of them being the ones. -/
def decimalValue (cs : List Char) : Nat :=
  Nat.ofDigits 10 (cs.reverse.map fun c => c.toNat - '0'.toNat)

/-- Digits read from the left give the number that they denote: by induction from the ones, which
come first among the library's digits. -/
theorem ofDigitChars_eq_decimalValue (cs : List Char) :
    Nat.ofDigitChars 10 cs 0 = decimalValue cs := by
  rw [← cs.reverse_reverse]
  induction cs.reverse with
  | nil => rfl
  | cons c ds ih =>
    rw [List.reverse_cons, Nat.ofDigitChars_append, ih, Nat.ofDigitChars_cons, Nat.ofDigitChars_nil]
    simp only [decimalValue, List.reverse_append, List.reverse_singleton, List.singleton_append,
      List.reverse_reverse, List.map_cons, Nat.ofDigits_cons]
    exact Nat.add_comm _ _

end Text

namespace FieldElement

/-- The octets spell the value. -/
theorem toNat_toBytes (a : FieldElement) : a.toBytes.toNat = a.val :=
  Bytes.toNat_ofNat (Nat.lt_trans a.lt (by decide))

theorem toBytes_inj {a b : FieldElement} : a.toBytes = b.toBytes ↔ a = b := by
  refine ⟨fun h => ?_, fun h => h ▸ rfl⟩
  rw [← ofBytes_toBytes a, h, ofBytes_toBytes]

theorem toList_toDecimal (a : FieldElement) : a.toDecimal.toList = Nat.toDigits 10 a.val := by
  rw [toDecimal, String.toList_ofList]

@[simp] theorem ofDecimal_toDecimal (a : FieldElement) : ofDecimal a.toDecimal = .ok a := by
  have hdigit : (Nat.toDigits 10 a.val).all Char.isDigit = true :=
    List.all_eq_true.mpr fun c hc => Nat.isDigit_of_mem_toDigits (by decide) (by decide) hc
  have hzero : ¬((Nat.toDigits 10 a.val).head? = some '0' ∧ (Nat.toDigits 10 a.val).length ≠ 1) :=
    fun h => h.2 (Text.length_toDigits_of_head? h.1)
  have hval : Nat.ofDigitChars 10 (Nat.toDigits 10 a.val) 0 = a.val := Nat.ofDigitChars_ten_toDigits
  have hlt : Nat.ofDigitChars 10 (Nat.toDigits 10 a.val) 0 < fieldModulus := by
    rw [hval]
    exact a.lt
  rw [ofDecimal, toList_toDecimal, if_neg (by simp [Nat.toDigits_ne_nil, hdigit]), if_neg hzero,
    dif_pos hlt]
  simp only [hval]

/-- **The texts that are read are the texts that are written.** -/
theorem ofDecimal_eq_ok_iff {s : String} {a : FieldElement} :
    ofDecimal s = .ok a ↔ s = a.toDecimal := by
  refine ⟨fun h => ?_, fun h => h ▸ ofDecimal_toDecimal a⟩
  rw [ofDecimal] at h
  split at h
  · cases h
  split at h
  · cases h
  split at h
  case isFalse => cases h
  case isTrue hdigit hzero hlt =>
    cases h
    rw [not_or, Bool.not_eq_false, List.all_eq_true] at hdigit
    have hcs := Text.toDigits_ofDigitChars hdigit.1 hdigit.2 fun h0 =>
      Decidable.byContradiction fun h1 => hzero ⟨h0, h1⟩
    rw [toDecimal, hcs, String.ofList_toList]

/-- A text that is not read is refused as the text of a commitment. -/
theorem exists_commitmentParse_of_ofDecimal {s : String} {err : CommitmentError}
    (h : ofDecimal s = .error err) : ∃ reason, err = .commitmentParse reason := by
  rw [ofDecimal] at h
  split at h
  case isTrue => exact ⟨_, (Except.error.inj h).symm⟩
  case isFalse =>
    split at h
    case isTrue => exact ⟨_, (Except.error.inj h).symm⟩
    case isFalse =>
      split at h
      case isTrue => cases h
      case isFalse => exact ⟨_, (Except.error.inj h).symm⟩

/-- The text of an element denotes its value. -/
theorem decimalValue_toDecimal (a : FieldElement) :
    Text.decimalValue a.toDecimal.toList = a.val := by
  rw [toList_toDecimal, ← Text.ofDigitChars_eq_decimalValue, Nat.ofDigitChars_ten_toDigits]

/-- **A text is read exactly if it comes back**: the number that it denotes is reduced, and the
result is written. -/
theorem ofDecimal_eq_ok_iff_comesBack {s : String} {a : FieldElement} :
    ofDecimal s = .ok a ↔ a = ofNat (Text.decimalValue s.toList) ∧ a.toDecimal = s := by
  rw [ofDecimal_eq_ok_iff]
  constructor
  · rintro rfl
    exact ⟨by rw [decimalValue_toDecimal, ofNat_val], rfl⟩
  · rintro ⟨-, h⟩
    exact h.symm

/-! ## The texts -/

/-- **The texts that spell an element**: digits of a number below the modulus, of which the first is
no zero unless it is the only one. -/
@[mk_iff] structure IsSpelling (s : String) : Prop where
  ne_empty : s ≠ ""
  isDigit : ∀ c ∈ s.toList, c.isDigit = true
  eq_zero : s.toList.head? = some '0' → s = "0"
  value_lt : Text.decimalValue s.toList < fieldModulus

/-- The characters of the text are looked at, not those of the type. -/
instance (s : String) : Decidable (IsSpelling s) :=
  have : Decidable (∀ c ∈ s.toList, c.isDigit = true) := List.decidableBAll _ _
  decidable_of_iff' _ (isSpelling_iff s)

theorem isSpelling_toDecimal (a : FieldElement) : IsSpelling a.toDecimal where
  ne_empty h := by
    have hnil : Nat.toDigits 10 a.val = [] := by rw [← toList_toDecimal, h, String.toList_empty]
    exact Nat.toDigits_ne_nil hnil
  isDigit c hc := by
    rw [toList_toDecimal] at hc
    exact Nat.isDigit_of_mem_toDigits (by decide) (by decide) hc
  eq_zero hzero := by
    have hlength : a.toDecimal.toList.length = 1 := by
      rw [toList_toDecimal] at hzero ⊢
      exact Text.length_toDigits_of_head? hzero
    obtain ⟨c, hc⟩ := List.length_eq_one_iff.mp hlength
    rw [hc, List.head?_singleton, Option.some.injEq] at hzero
    rw [← String.toList_inj, hc, hzero]
    rfl
  value_lt := by
    rw [decimalValue_toDecimal]
    exact a.lt

/-- **The texts that are read** are the ones that spell an element. -/
theorem exists_ofDecimal_iff {s : String} : (∃ a, ofDecimal s = .ok a) ↔ IsSpelling s := by
  constructor
  · rintro ⟨a, h⟩
    obtain rfl := ofDecimal_eq_ok_iff.mp h
    exact isSpelling_toDecimal a
  · intro h
    have hne : s.toList ≠ [] := fun hnil => h.ne_empty (String.toList_eq_nil_iff.mp hnil)
    have hdigits := Text.toDigits_ofDigitChars hne h.isDigit fun hzero => by
      rw [h.eq_zero hzero]
      rfl
    rw [Text.ofDigitChars_eq_decimalValue] at hdigits
    refine ⟨⟨Text.decimalValue s.toList, h.value_lt⟩, ofDecimal_eq_ok_iff.mpr ?_⟩
    rw [← String.toList_inj, toList_toDecimal, hdigits]

/-- **One value has one text, and octets of its own.**  A text is read as an element exactly if it
is the text of that element: the digits of a number below the modulus, without a zero too many in
front, which denote the value.  It makes no difference whether the number is compared with the
modulus or is reduced, written and compared with the text.  Texts that are read are equal exactly
when their values are.  The octets are 32, they spell the value from the greatest one down, no two
elements have the same, and they are read back. -/
theorem one_text_per_value :
    (∀ s a, ofDecimal s = .ok a ↔ s = a.toDecimal)
      ∧ (∀ s, (∃ a, ofDecimal s = .ok a) ↔ IsSpelling s)
      ∧ (∀ s a, ofDecimal s = .ok a → a.val = Text.decimalValue s.toList)
      ∧ (∀ s a, ofDecimal s = .ok a ↔
        a = ofNat (Text.decimalValue s.toList) ∧ a.toDecimal = s)
      ∧ (∀ s t a b, ofDecimal s = .ok a → ofDecimal t = .ok b → (s = t ↔ a = b))
      ∧ (∀ a : FieldElement, a.toBytes.length = 32 ∧ a.toBytes.toNat = a.val
        ∧ ofBytes a.toBytes = a)
      ∧ Function.Injective toBytes := by
  refine ⟨fun s a => ofDecimal_eq_ok_iff, fun s => exists_ofDecimal_iff, fun s a h => ?_,
    fun s a => ofDecimal_eq_ok_iff_comesBack, fun s t a b hs ht => ?_,
    fun a => ⟨Bytes.length_ofNat 32 a.val, toNat_toBytes a, ofBytes_toBytes a⟩,
    fun a b h => toBytes_inj.mp h⟩
  · obtain rfl := ofDecimal_eq_ok_iff.mp h
    exact (decimalValue_toDecimal a).symm
  · obtain rfl := ofDecimal_eq_ok_iff.mp hs
    obtain rfl := ofDecimal_eq_ok_iff.mp ht
    refine ⟨fun h => ?_, fun h => h ▸ rfl⟩
    rw [h, ofDecimal_eq_ok_iff.mpr rfl] at hs
    exact (Except.ok.inj hs).symm

/-- 4242 has one text.  A zero in front, digits of another script and a number that is reduced to
4242 make no further ones. -/
theorem one_text_per_value_sample :
    let wrapped := "21888242871839275222246405745257275088548364400416034343698204186575808499859"
    ofNat (Text.decimalValue wrapped.toList) = ofNat 4242
      ∧ (∃ a, ofDecimal "4242" = .ok a ∧ a.val = 4242 ∧ ∀ s, ofDecimal s = .ok a → s = "4242")
      ∧ ∀ s ∈ ["", "04242", "+4242", "٤٢٤٢", wrapped], ¬∃ a, ofDecimal s = .ok a := by
  intro wrapped
  obtain ⟨-, hreads, hvalue, -, hunique, -⟩ := one_text_per_value
  obtain ⟨a, ha⟩ := (hreads "4242").mpr (by decide)
  have hrefused : ∀ s ∈ ["", "04242", "+4242", "٤٢٤٢", wrapped], ¬IsSpelling s := by
    decide +kernel
  exact ⟨by decide +kernel, ⟨a, ha, hvalue _ a ha, fun s hs => (hunique s _ a a hs ha).mpr rfl⟩,
    fun s hs h => hrefused s hs ((hreads s).mp h)⟩

@[simp] theorem arranged_toJson (a : FieldElement) : a.toJson.arranged = a.toJson := rfl

@[simp] theorem ofJson?_tree (a : FieldElement) : ofJson? a.toJson.tree = some a := by
  rw [ofJson?, toJson, Json.Tree.text?_tree, Option.bind_eq_bind, Option.bind_some,
    ofDecimal_toDecimal]
  rfl

end FieldElement

end ProofLogin
