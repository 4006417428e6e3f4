import ProofLogin.Proofs.Json.Normal

/-!
# Proofs/Json/Canonical — the canonical form of a value determines the value

    value ──canonicalize──▸ octets ──parse?──▸ value

A value has a canonical form unless a binary number stands somewhere in it
(`canonicalize_eq_ok_iff`), and a value that was read is read back from it
(`parse?_of_canonicalize`). Which numbers are binary is seen on the word: every one but the decimal
text of an integer of 64 bits (`parse?_intOctets`, `exists_float_of_parse?`).

Between its strings the canonical form has no blank (`solid_compact`).
-/

namespace ProofLogin.Json

/-! ## Octets outside of strings -/

/-- The octets outside of strings, where the text goes on in a string or not, after a backslash or
not. -/
def outsideFrom : (inString escaped : Bool) → Bytes → Bytes
  | _, _, [] => []
  | false, _, b :: bs =>
    if b = quote then outsideFrom true false bs else b :: outsideFrom false false bs
  | true, true, _ :: bs => outsideFrom true false bs
  | true, false, b :: bs =>
    if b = quote then outsideFrom false false bs else outsideFrom true (b = backslash) bs

/-- **The octets of a text outside of its strings.** -/
def outside (bs : Bytes) : Bytes := outsideFrom false false bs

/-- A character of ASCII that leaves ink. -/
def isGraphic (b : UInt8) : Bool := 0x20 < b && b < 0x7F

/-- **Whole words and strings without blanks between them**: whatever follows them, they add no
blank outside of strings. -/
def Solid (bs : Bytes) : Prop :=
  ∀ rest, (∀ b ∈ outside rest, isGraphic b = true) → ∀ b ∈ outside (bs ++ rest), isGraphic b = true

namespace Solid

variable {bs cs : Bytes}

theorem nil : Solid [] := fun _ h => h

theorem append (h : Solid bs) (h' : Solid cs) : Solid (bs ++ cs) := by
  intro rest hrest
  rw [List.append_assoc]
  exact h _ (h' rest hrest)

theorem octet {b : UInt8} (hb : isGraphic b = true) (hquote : b ≠ quote) : Solid [b] := by
  intro rest hrest
  have : outside ([b] ++ rest) = b :: outside rest := if_neg hquote
  rw [this]
  exact List.forall_mem_cons.mpr ⟨hb, hrest⟩

theorem of_forall (h : ∀ b ∈ bs, isGraphic b = true ∧ b ≠ quote) : Solid bs := by
  induction bs with
  | nil => exact nil
  | cons b bs ih =>
    obtain ⟨hb, hbs⟩ := List.forall_mem_cons.mp h
    exact (octet hb.1 hb.2).append (ih hbs)

theorem outside_nil (h : Solid bs) : ∀ b ∈ outside bs, isGraphic b = true := by
  have := h [] (fun _ hb => nomatch hb)
  rwa [List.append_nil] at this

end Solid

/-! ## Strings are skipped -/

theorem outsideFrom_plain {bs : Bytes} (h : ∀ b ∈ bs, b ≠ quote ∧ b ≠ backslash) (rest : Bytes) :
    outsideFrom true false (bs ++ rest) = outsideFrom true false rest := by
  induction bs with
  | nil => rfl
  | cons b bs ih =>
    obtain ⟨⟨hquote, hbackslash⟩, hbs⟩ := List.forall_mem_cons.mp h
    rw [List.cons_append, outsideFrom, if_neg hquote, decide_eq_false hbackslash, ih hbs]

/-- What a character stands as between quotes does not end the string. -/
theorem Escape.outsideFrom_append {c : Char} {bs : Bytes} (h : Escape c bs) (rest : Bytes) :
    outsideFrom true false (bs ++ rest) = outsideFrom true false rest := by
  cases h with
  | letter => rfl
  | @unit a b _ ha hb =>
    have hdigit {d : UInt8} {n : Nat} (hd : Hex.value? d = some n) : d ≠ quote ∧ d ≠ backslash := by
      constructor <;> rintro rfl <;> cases hd
    have hdigits : ∀ d ∈ [0x30, 0x30, a, b], d ≠ quote ∧ d ≠ backslash := by
      simp only [List.forall_mem_cons]
      exact ⟨by decide, by decide, hdigit ha, hdigit hb, fun _ h => nomatch h⟩
    exact outsideFrom_plain hdigits rest
  | plain h => exact outsideFrom_plain (fun b hb => ⟨(h b hb).1, (h b hb).2.1⟩) rest

theorem outsideFrom_flatMap (cs : List Char) (rest : Bytes) :
    outsideFrom true false (cs.flatMap (fun c => (escape c).flatMap String.utf8EncodeChar) ++ rest)
      = outsideFrom true false rest := by
  induction cs with
  | nil => rfl
  | cons c cs ih =>
    rw [List.flatMap_cons, List.append_assoc, (escape_flatMap c).outsideFrom_append, ih]

theorem Solid.literal (s : String) : Solid ((Json.literal s).flatMap String.utf8EncodeChar) := by
  intro rest hrest
  have hskip : outside (quote :: inner s ++ [quote] ++ rest) = outside rest := by
    change outsideFrom true false (inner s ++ [quote] ++ rest) = _
    rw [List.append_assoc, inner, outsideFrom_flatMap]
    rfl
  rw [← Utf8.encode_ofList, utf8Encode_literal, hskip]
  exact hrest

/-! ## The canonical form has no blanks -/

theorem isGraphic_of_isWordOctet {b : UInt8} (h : isWordOctet b = true) :
    isGraphic b = true ∧ b ≠ quote := by
  simp only [isWordOctet, Bool.or_eq_true, Bool.and_eq_true, decide_eq_true_eq, beq_iff_eq,
    UInt8.le_iff_toNat_le, ← UInt8.toNat_inj, UInt8.reduceToNat] at h
  simp only [isGraphic, quote, Bool.and_eq_true, decide_eq_true_eq, UInt8.lt_iff_toNat_lt, ne_eq,
    ← UInt8.toNat_inj, UInt8.reduceToNat]
  omega

theorem Solid.word {w : Bytes} (hw : ∀ b ∈ w, isWordOctet b = true) : Solid w :=
  .of_forall fun b hb => isGraphic_of_isWordOctet (hw b hb)

/-- Things with a comma between each two. -/
theorem Solid.sepBy {α : Type} (f : α → List Char) {as : List α}
    (h : ∀ a ∈ as, Solid ((f a).flatMap String.utf8EncodeChar)) :
    Solid ((Value.sepBy [','] (as.map f)).flatMap String.utf8EncodeChar) := by
  induction as with
  | nil => exact nil
  | cons a as ih =>
    obtain ⟨hfirst, hrest⟩ := List.forall_mem_cons.mp h
    cases as with
    | nil => exact hfirst
    | cons a' as =>
      have hcomma : Solid [0x2C] := .octet rfl (by decide)
      have := (hfirst.append hcomma).append (ih hrest)
      simp only [List.map_cons, Value.sepBy, List.flatMap_append] at this ⊢
      exact this

namespace Value

/-- **The plain text of a value without binary numbers has no blanks.** -/
theorem solid_compact {v : Value} (h : v.IsExact) :
    Solid (v.compact.flatMap String.utf8EncodeChar) := by
  induction v using induction with
  | null => exact .word (List.all_eq_true.mp rfl)
  | bool b => cases b <;> exact .word (List.all_eq_true.mp rfl)
  | int n => exact .word isWordOctet_of_mem_intOctets
  | float x => cases h
  | text s => exact .literal s
  | array items ih =>
    have hitems := Solid.sepBy compact fun v hv => ih v hv (isExact_array_iff.mp h v hv)
    have hopen : Solid (String.utf8EncodeChar '[') := .octet rfl (by decide)
    have hclose : Solid (String.utf8EncodeChar ']') := .octet rfl (by decide)
    rw [compact, compactItems_eq_map, List.cons_append, List.flatMap_cons, List.flatMap_append,
      List.flatMap_singleton]
    exact hopen.append (hitems.append hclose)
  | object members ih =>
    have hmember (m) (hm : m ∈ members) :
        Solid ((Json.literal m.1 ++ ':' :: m.2.compact).flatMap String.utf8EncodeChar) := by
      have hcolon : Solid (String.utf8EncodeChar ':') := .octet rfl (by decide)
      rw [List.flatMap_append, List.flatMap_cons]
      exact (Solid.literal m.1).append
        (hcolon.append (ih m hm (isExact_object_iff.mp h m hm)))
    have hmembers := Solid.sepBy (fun m : String × Value => Json.literal m.1 ++ ':' :: m.2.compact)
      hmember
    have hopen : Solid (String.utf8EncodeChar '\x7b') := .octet rfl (by decide)
    have hclose : Solid (String.utf8EncodeChar '\x7d') := .octet rfl (by decide)
    rw [compact, compactMembers_eq_map, List.cons_append, List.flatMap_cons, List.flatMap_append,
      List.flatMap_singleton]
    exact hopen.append (hmembers.append hclose)

theorem isGraphic_of_mem_outside {v : Value} (h : v.IsExact) :
    ∀ b ∈ outside v.canonicalBytes, isGraphic b = true := by
  rw [canonicalBytes, Utf8.encode_ofList, canonical_eq_compact]
  exact (solid_compact h.arranged).outside_nil

/-! ## Which values have a canonical form -/

/-- **A value stands in another one**, at any depth. -/
inductive Within (u : Value) : Value → Prop
  | self : Within u u
  | item {items : List Value} {v : Value} (hv : v ∈ items) (h : Within u v) :
    Within u (.array items)
  | member {members : List (String × Value)} {m : String × Value} (hm : m ∈ members)
    (h : Within u m.2) : Within u (.object members)

theorem isExact_iff {v : Value} : v.IsExact ↔ ∀ x, ¬ Within (.float x) v := by
  constructor
  · intro h x hx
    induction hx with
    | self => cases h
    | item hv _ ih => exact ih (isExact_array_iff.mp h _ hv)
    | member hm _ ih => exact ih (isExact_object_iff.mp h _ hm)
  · intro h
    induction v using induction with
    | null | bool | int | text => rfl
    | float x => exact absurd .self (h x)
    | array items ih =>
      exact isExact_array_iff.mpr fun v hv => ih v hv fun x hx => h x (.item hv hx)
    | object members ih =>
      exact isExact_object_iff.mpr fun m hm => ih m hm fun x hx => h x (.member hm hx)

theorem canonicalize_eq_ok_iff {v : Value} {bs : Bytes} :
    v.canonicalize = .ok bs ↔ v.IsExact ∧ bs = v.canonicalBytes := by
  rw [canonicalize, IsExact]
  cases v.firstFloat? with
  | none => simp [eq_comm]
  | some x => simp

/-- **A value that was read is read back from its canonical form.** -/
theorem parse?_of_canonicalize {text bs : Bytes} {v : Value} (h : parse? text = some v)
    (hbs : v.canonicalize = .ok bs) : parse? bs = some v := by
  obtain ⟨t, -, ht⟩ := Option.bind_eq_some_iff.mp h
  obtain ⟨hexact, rfl⟩ := canonicalize_eq_ok_iff.mp hbs
  rw [parse?, Tree.parse?_canonicalBytes hexact, Option.bind_some,
    (normal_of_ofTree? ht).ofTree?_arranged hexact]

/-! ## Which numbers are integers -/

theorem parse?_word {w : Bytes} (hw : ∀ b ∈ w, isWordOctet b = true) (hne : w ≠ []) :
    parse? w = (Tree.ofWord? w).bind (ofTree? deepest) := by
  have htokens : tokens? w = some [.word w] := (Spells.word hne hw).tokens?_eq
  rw [parse?, Tree.parse?, htokens]
  change ((((Tree.ofWord? w).map fun t => Tree.State.after t []).bind some).bind _).bind _ = _
  cases Tree.ofWord? w <;> rfl

/-- The decimal text of an integer that 64 bits hold is read as that integer. -/
theorem parse?_intOctets {n : Int} (hn : isInteger64 n = true) :
    parse? (intOctets n) = some (.int n) := by
  rw [parse?_word isWordOctet_of_mem_intOctets (intOctets_ne_nil n), ofWord?_int, Option.bind_some]
  exact if_pos hn

/-- **Every other number is read as a binary one.** -/
theorem exists_float_of_parse? {w : Bytes} (hw : ∀ b ∈ w, isWordOctet b = true) {N : Numeral}
    (hN : Numeral.ofWord? w = some N) {v : Value} (h : parse? w = some v)
    (hother : ∀ n, isInteger64 n = true → w ≠ intOctets n) : ∃ x, v = .float x := by
  have hne : w ≠ [] := by
    rintro rfl
    cases hN
  rw [parse?_word hw hne, ofWord?_of_number hN, Option.bind_some, ofTree?, ofNumeral?.eq_def] at h
  split at h
  case h_1 n =>
    have hn : ¬isInteger64 n = true := fun hn => hother n hn (ofWord?_eq_integer_iff.mp hN)
    rw [if_neg hn] at h
    obtain ⟨x, -, rfl⟩ := Option.map_eq_some_iff.mp h
    exact ⟨x, rfl⟩
  case h_2 =>
    obtain ⟨x, -, rfl⟩ := Option.map_eq_some_iff.mp h
    exact ⟨x, rfl⟩

/-! ## A normal form -/

/-- **The canonical form is a normal form.** A value that was read has one unless a binary number
stands somewhere in it, and a number is binary unless it is written as the decimal text of an
integer that 64 bits hold. The canonical form is read as the same value, which has the same
canonical form; between its strings there are no blanks. So two values that have the same one are
the same. -/
theorem canonicalize_normal_form {text : Bytes} {v : Value} (h : parse? text = some v) :
    ((∃ bs, v.canonicalize = .ok bs) ↔ ∀ x, ¬ Within (.float x) v)
      ∧ (∀ n, isInteger64 n = true → parse? (intOctets n) = some (.int n))
      ∧ (∀ w N u, (∀ b ∈ w, isWordOctet b = true) → Numeral.ofWord? w = some N →
        parse? w = some u → (∀ n, isInteger64 n = true → w ≠ intOctets n) → ∃ x, u = .float x)
      ∧ (∀ bs, v.canonicalize = .ok bs → parse? bs = some v
        ∧ (∀ u, parse? bs = some u → u.canonicalize = .ok bs)
        ∧ ∀ b ∈ outside bs, 0x20 < b ∧ b < 0x7F)
      ∧ ∀ text' v' bs bs', parse? text' = some v' → v.canonicalize = .ok bs →
        v'.canonicalize = .ok bs' → (bs = bs' ↔ v = v') := by
  refine ⟨?_, fun n => parse?_intOctets, fun w N u hw hN => exists_float_of_parse? hw hN,
    ?_, ?_⟩
  · rw [← isExact_iff]
    exact ⟨fun ⟨bs, hbs⟩ => (canonicalize_eq_ok_iff.mp hbs).1,
      fun hexact => ⟨_, canonicalize_eq_ok_iff.mpr ⟨hexact, rfl⟩⟩⟩
  · intro bs hbs
    have hread := parse?_of_canonicalize h hbs
    refine ⟨hread, fun u hu => ?_, fun b hb => ?_⟩
    · rw [← Option.some.inj (hread.symm.trans hu), hbs]
    · obtain ⟨hexact, rfl⟩ := canonicalize_eq_ok_iff.mp hbs
      have := isGraphic_of_mem_outside hexact b hb
      rwa [isGraphic, Bool.and_eq_true, decide_eq_true_eq, decide_eq_true_eq] at this
  · intro text' v' bs bs' h' hbs hbs'
    refine ⟨fun heq => ?_, fun heq => ?_⟩
    · subst heq
      exact Option.some.inj
        ((parse?_of_canonicalize h hbs).symm.trans (parse?_of_canonicalize h' hbs'))
    · subst heq
      exact Except.ok.inj (hbs.symm.trans hbs')

/-- The octets of an object with blanks, whose keys are in no order: under `b` the numbers 1 and -2,
under `a` a blank. -/
def sampleText : Bytes :=
  [0x7B, 0x22, 0x62, 0x22, 0x3A, 0x20, 0x5B, 0x31, 0x2C, 0x2D, 0x32, 0x5D, 0x2C, 0x0A, 0x22, 0x61,
    0x22, 0x3A, 0x22, 0x20, 0x22, 0x7D]

/-- The object has a canonical form, which is read as the same object and keeps its one blank inside
of a string; a negative zero has none. -/
theorem canonicalize_normal_form_sample :
    (∃ v bs, parse? sampleText = some v ∧ v.canonicalize = .ok bs ∧ parse? bs = some v
        ∧ ∀ b ∈ outside bs, 0x20 < b ∧ b < 0x7F)
      ∧ ∃ x u, parse? [0x2D, 0x30] = some u ∧ u = .float x ∧ ∀ bs, u.canonicalize ≠ .ok bs := by
  have htext : parse? sampleText
      = some (.object [("a", .text " "), ("b", .array [.int 1, .int (-2)])]) := rfl
  have hzero : parse? [0x2D, 0x30] = some (.float ⟨true, 0, -1074⟩) := rfl
  obtain ⟨hexists, -, -, hread, -⟩ := canonicalize_normal_form htext
  obtain ⟨hexists', -, hfloat, -, -⟩ := canonicalize_normal_form hzero
  refine ⟨?_, ?_⟩
  · obtain ⟨bs, hbs⟩ := hexists.mpr (isExact_iff.mp rfl)
    exact ⟨_, bs, htext, hbs, (hread bs hbs).1, (hread bs hbs).2.2⟩
  · obtain ⟨x, hx⟩ := hfloat [0x2D, 0x30] (.decimal true 0 0) _ (List.all_eq_true.mp rfl) rfl hzero
      fun n _ hn => nomatch (ofWord?_eq_integer_iff.mpr hn)
    refine ⟨x, _, hzero, hx, fun bs hbs => ?_⟩
    exact hexists'.mp ⟨bs, hbs⟩ _ .self

end Value

end ProofLogin.Json
