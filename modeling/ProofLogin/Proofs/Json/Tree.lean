import ProofLogin.Proofs.Json.Literal
import ProofLogin.Proofs.Json.Numeral
import ProofLogin.Proofs.Json.Value

/-!
# Proofs/Json/Tree — a value is read back from its text

    value ──compact──▸ octets ──tokens?──▸ `Value.tokens` ──ofTokens?──▸ `Value.tree`

`Value.tokens` and `Value.tree` are what a value looks like half way and at the end; both machines
of the reader are followed from any state in which a value may begin.  `parse?_compact` is the whole
way for the plain text and `parse?_canonicalBytes` for the canonical one, for every value without
binary numbers.
-/

namespace ProofLogin.Json

/-! ## Half way and at the end -/

/-- The tokens of several things, with a comma between each two. -/
def commas : List (List Token) → List Token
  | [] => []
  | [ts] => ts
  | ts :: tss => ts ++ .comma :: commas tss

theorem commas_cons_cons (ts us : List Token) (tss : List (List Token)) :
    commas (ts :: us :: tss) = ts ++ .comma :: commas (us :: tss) := rfl

namespace Value

/-- The token of a text. -/
def textToken (s : String) : Token := .quoted (inner s)

mutual

/-- **The tokens of a value.** -/
def tokens : Value → List Token
  | .null => [.word [0x6E, 0x75, 0x6C, 0x6C]]
  | .bool true => [.word [0x74, 0x72, 0x75, 0x65]]
  | .bool false => [.word [0x66, 0x61, 0x6C, 0x73, 0x65]]
  | .int n => [.word (intOctets n)]
  | .float _ => []
  | .text s => [textToken s]
  | .array items => .openArray :: commas (itemTokens items) ++ [.closeArray]
  | .object members => .openObject :: commas (memberTokens members) ++ [.closeObject]

/-- The tokens of every item. -/
def itemTokens : List Value → List (List Token)
  | [] => []
  | v :: vs => tokens v :: itemTokens vs

/-- The tokens of every member. -/
def memberTokens : List (String × Value) → List (List Token)
  | [] => []
  | (k, v) :: ms => (textToken k :: .colon :: tokens v) :: memberTokens ms

end

mutual

/-- **The tree of a value**; a binary number has none. -/
def tree : Value → Tree
  | .null => .null
  | .bool b => .bool b
  | .int n => .number (.integer n)
  | .float _ => .null
  | .text s => .text (inner s)
  | .array items => .array (itemTrees items)
  | .object members => .object (memberTrees members)

/-- The tree of every item. -/
def itemTrees : List Value → List Tree
  | [] => []
  | v :: vs => tree v :: itemTrees vs

/-- The tree of every member. -/
def memberTrees : List (String × Value) → List (Bytes × Tree)
  | [] => []
  | (k, v) :: ms => (inner k, tree v) :: memberTrees ms

end

theorem itemTokens_eq_map (vs : List Value) : itemTokens vs = vs.map tokens := by
  induction vs with
  | nil => rfl
  | cons v vs ih => rw [itemTokens, ih, List.map_cons]

theorem memberTokens_eq_map (ms : List (String × Value)) :
    memberTokens ms = ms.map fun m => textToken m.1 :: .colon :: m.2.tokens := by
  induction ms with
  | nil => rfl
  | cons m ms ih => rw [memberTokens, ih, List.map_cons]

theorem itemTrees_eq_map (vs : List Value) : itemTrees vs = vs.map tree := by
  induction vs with
  | nil => rfl
  | cons v vs ih => rw [itemTrees, ih, List.map_cons]

theorem memberTrees_eq_map (ms : List (String × Value)) :
    memberTrees ms = ms.map fun m => (inner m.1, m.2.tree) := by
  induction ms with
  | nil => rfl
  | cons m ms ih => rw [memberTrees, ih, List.map_cons]

end Value

/-! ## Scanning -/

/-- **A scanner with finished tokens**: between two of them, or in a word that the next octet that
is no octet of a word will end. -/
inductive Scanner.Holds : Scanner → List Token → Prop
  | between (ts : List Token) : Holds ⟨.between, ts⟩ ts
  | word (read : Bytes) (ts : List Token) : Holds ⟨.word read, ts⟩ (.word read.reverse :: ts)

theorem Scanner.Holds.push {s : Scanner} {ts : List Token} (h : s.Holds ts) {b : UInt8}
    (hb : isWordOctet b = false) : s.push b = Scanner.push ⟨.between, ts⟩ b := by
  cases h with
  | between => rfl
  | word read ts => simp only [Scanner.push, hb, Bool.false_eq_true, if_false]

theorem Scanner.Holds.finish {s : Scanner} {ts : List Token} (h : s.Holds ts) :
    s.finish = some ts.reverse := by
  cases h with
  | between => rfl
  | word read ts => rfl

/-- **Octets that are scanned as the given tokens**, wherever a token may begin. -/
def Spells (bs : Bytes) (ts : List Token) : Prop :=
  ∀ before, ∃ s : Scanner,
    bs.foldlM Scanner.push ⟨.between, before⟩ = some s ∧ s.Holds (ts.reverse ++ before)

namespace Spells

variable {bs cs : Bytes} {ts us : List Token}

theorem nil : Spells [] [] := fun before => ⟨_, rfl, .between before⟩

/-- The octets of the next token may follow where they do not lengthen a word. -/
theorem append (h : Spells bs ts) {b : UInt8} (hb : isWordOctet b = false)
    (h' : Spells (b :: cs) us) : Spells (bs ++ b :: cs) (ts ++ us) := by
  intro before
  obtain ⟨s, hs, hts⟩ := h before
  obtain ⟨s', hs', hus⟩ := h' (ts.reverse ++ before)
  refine ⟨s', ?_, ?_⟩
  · rw [List.foldlM_append, hs, Option.bind_eq_bind, Option.bind_some, ← hs', List.foldlM_cons,
      List.foldlM_cons, hts.push hb]
  · rwa [List.reverse_append, List.append_assoc]

theorem punctuation {b : UInt8} {t : Token} (hb : punctuation? b = some t)
    (hblank : isBlank b = false) (hquote : b ≠ quote) (hword : isWordOctet b = false)
    (h : Spells bs ts) : Spells (b :: bs) (t :: ts) := by
  intro before
  obtain ⟨s, hs, hts⟩ := h (t :: before)
  refine ⟨s, ?_, ?_⟩
  · have hpush : Scanner.push ⟨.between, before⟩ b = some ⟨.between, t :: before⟩ := by
      simp only [Scanner.push, Scanner.start, hblank, hword, hb, if_neg hquote, Bool.false_eq_true,
        if_false, Option.map_some]
    rw [List.foldlM_cons, hpush, Option.bind_eq_bind, Option.bind_some, hs]
  · rwa [List.reverse_cons, List.append_assoc, List.singleton_append]

theorem literal (s : String) : Spells (quote :: inner s ++ [quote]) [Value.textToken s] :=
  fun before => ⟨_, foldlM_push_literal s before, .between _⟩

theorem foldlM_push_word {w : Bytes} (hw : ∀ b ∈ w, isWordOctet b = true) (read : Bytes)
    (before : List Token) :
    w.foldlM Scanner.push ⟨.word read, before⟩ = some ⟨.word (w.reverse ++ read), before⟩ := by
  induction w generalizing read with
  | nil => rfl
  | cons b w ih =>
    have hpush : Scanner.push ⟨.word read, before⟩ b = some ⟨.word (b :: read), before⟩ := by
      simp only [Scanner.push, hw b (by simp), if_true]
    rw [List.foldlM_cons, hpush, Option.bind_eq_bind, Option.bind_some,
      ih fun b hb => hw b (by simp [hb]), List.reverse_cons, List.append_assoc,
      List.singleton_append]

/-- No octet of a word begins anything else. -/
theorem start_of_isWordOctet {b : UInt8} (h : isWordOctet b = true) (before : List Token) :
    Scanner.start before b = some ⟨.word [b], before⟩ := by
  have hblank : isBlank b = false := by
    rw [Bool.eq_false_iff]
    intro hb
    simp only [isBlank, Bool.or_eq_true, beq_iff_eq] at hb
    rcases hb with ((rfl | rfl) | rfl) | rfl <;> exact absurd h (by decide)
  have hquote : b ≠ quote := by
    rintro rfl
    exact absurd h (by decide)
  simp only [Scanner.start, hblank, Bool.false_eq_true, if_false, if_neg hquote, h, if_true]

theorem word {w : Bytes} (hne : w ≠ []) (hw : ∀ b ∈ w, isWordOctet b = true) :
    Spells w [.word w] := by
  intro before
  cases w with
  | nil => exact absurd rfl hne
  | cons b w =>
    refine ⟨⟨.word (b :: w).reverse, before⟩, ?_, ?_⟩
    · have hpush : Scanner.push ⟨.between, before⟩ b = some ⟨.word [b], before⟩ :=
        start_of_isWordOctet (hw b (by simp)) before
      rw [List.foldlM_cons, hpush, Option.bind_eq_bind, Option.bind_some,
        foldlM_push_word fun b hb => hw b (by simp [hb]), List.reverse_cons]
    · have := Scanner.Holds.word (b :: w).reverse before
      rwa [List.reverse_reverse] at this

/-- **The octets of a text are scanned as its tokens.** -/
theorem tokens?_eq (h : Spells bs ts) : tokens? bs = some ts := by
  obtain ⟨s, hs, hts⟩ := h []
  rw [tokens?, hs, Option.bind_some, hts.finish, List.append_nil, List.reverse_reverse]

/-- Things with a comma between each two, and what closes them. -/
theorem sepBy {α : Type} (f : α → List Char) (g : α → List Token) {as : List α}
    (h : ∀ a ∈ as, Spells ((f a).flatMap String.utf8EncodeChar) (g a)) {b : UInt8} {t : Token}
    (hb : isWordOctet b = false) (hclose : Spells [b] [t]) :
    Spells ((Value.sepBy [','] (as.map f)).flatMap String.utf8EncodeChar ++ [b])
      (commas (as.map g) ++ [t]) := by
  induction as with
  | nil => exact hclose
  | cons a as ih =>
    have hfirst := h a List.mem_cons_self
    cases as with
    | nil => exact hfirst.append hb hclose
    | cons a' as =>
      have hrest := (ih fun a ha => h a (List.mem_cons_of_mem _ ha)).punctuation (b := 0x2C)
        (t := .comma) rfl rfl (by decide) rfl
      have := hfirst.append rfl hrest
      simp only [List.map_cons, Value.sepBy, commas, List.flatMap_append, List.append_assoc,
        List.cons_append] at this ⊢
      exact this

end Spells

namespace Value

theorem spells_text (s : String) :
    Spells ((Json.literal s).flatMap String.utf8EncodeChar) [textToken s] := by
  rw [← Utf8.encode_ofList, utf8Encode_literal]
  exact .literal s

/-- **The plain text of a value without binary numbers is scanned as its tokens.** -/
theorem spells_compact {v : Value} (h : v.IsExact) :
    Spells (v.compact.flatMap String.utf8EncodeChar) v.tokens := by
  induction v using induction with
  | null =>
    have hword : (compact .null).flatMap String.utf8EncodeChar = [0x6E, 0x75, 0x6C, 0x6C] := rfl
    rw [hword]
    exact .word (List.cons_ne_nil _ _) (List.all_eq_true.mp rfl)
  | bool b =>
    cases b with
    | true =>
      have hword : (compact (.bool true)).flatMap String.utf8EncodeChar
        = [0x74, 0x72, 0x75, 0x65] := rfl
      rw [hword]
      exact .word (List.cons_ne_nil _ _) (List.all_eq_true.mp rfl)
    | false =>
      have hword : (compact (.bool false)).flatMap String.utf8EncodeChar
        = [0x66, 0x61, 0x6C, 0x73, 0x65] := rfl
      rw [hword]
      exact .word (List.cons_ne_nil _ _) (List.all_eq_true.mp rfl)
  | int n => exact .word (intOctets_ne_nil n) isWordOctet_of_mem_intOctets
  | float x => cases h
  | text s => exact spells_text s
  | array items ih =>
    have hclose : Spells [0x5D] [.closeArray] :=
      Spells.nil.punctuation rfl rfl (by decide) rfl
    have hitems := Spells.sepBy compact tokens
      (fun v hv => ih v hv (isExact_array_iff.mp h v hv)) rfl hclose
    rw [compact, tokens, compactItems_eq_map, itemTokens_eq_map, List.cons_append,
      List.flatMap_cons, List.flatMap_append]
    exact hitems.punctuation (b := 0x5B) rfl rfl (by decide) rfl
  | object members ih =>
    have hmember (m) (hm : m ∈ members) :
        Spells ((Json.literal m.1 ++ ':' :: m.2.compact).flatMap String.utf8EncodeChar)
          (textToken m.1 :: .colon :: m.2.tokens) := by
      rw [List.flatMap_append]
      have hvalue := (ih m hm (isExact_object_iff.mp h m hm)).punctuation (b := 0x3A)
        (t := .colon) rfl rfl (by decide) rfl
      exact (spells_text m.1).append rfl hvalue
    have hclose : Spells [0x7D] [.closeObject] :=
      Spells.nil.punctuation rfl rfl (by decide) rfl
    have hmembers := Spells.sepBy (fun m : String × Value => Json.literal m.1 ++ ':' :: m.2.compact)
      (fun m => textToken m.1 :: .colon :: m.2.tokens) hmember rfl hclose
    rw [compact, tokens, compactMembers_eq_map, memberTokens_eq_map, List.cons_append,
      List.flatMap_cons, List.flatMap_append]
    exact hmembers.punctuation (b := 0x7B) rfl rfl (by decide) rfl

end Value

/-! ## Building the tree -/

namespace Value

open Json.Tree (State Frame)

/-- **The tokens of a value build its tree**, wherever a value may stand. -/
def Builds (v : Value) : Prop :=
  ∀ stack, v.tokens.foldlM State.push (.value stack) = some (.after v.tree stack)

theorem foldlM_push_items {vs : List Value} (h : ∀ v ∈ vs, v.Builds) (hne : vs ≠ [])
    (done : List Tree) (stack : List Frame) :
    (commas (vs.map tokens) ++ [Token.closeArray]).foldlM State.push
        (.value (.items done :: stack))
      = some (.after (.array (done.reverse ++ vs.map tree)) stack) := by
  induction vs generalizing done with
  | nil => exact absurd rfl hne
  | cons v vs ih =>
    have hv := h v List.mem_cons_self (.items done :: stack)
    cases vs with
    | nil =>
      rw [List.map_singleton, commas, List.foldlM_append, hv, List.map_singleton,
        ← List.reverse_cons]
      rfl
    | cons v' vs =>
      have hrest := ih (fun v hv => h v (List.mem_cons_of_mem _ hv)) (List.cons_ne_nil _ _)
        (v.tree :: done)
      rw [List.reverse_cons, List.append_assoc, List.singleton_append] at hrest
      rw [List.map_cons, List.map_cons, commas_cons_cons, List.append_assoc, List.foldlM_append,
        hv]
      exact hrest

theorem foldlM_push_members {ms : List (String × Value)} (h : ∀ m ∈ ms, m.2.Builds)
    (hne : ms ≠ []) (done : List (Bytes × Tree)) (stack : List Frame) :
    (commas (ms.map fun m => textToken m.1 :: .colon :: m.2.tokens)
        ++ [Token.closeObject]).foldlM State.push (.nextKey done stack)
      = some (.after (.object (done.reverse ++ ms.map fun m => (inner m.1, m.2.tree))) stack) := by
  induction ms generalizing done with
  | nil => exact absurd rfl hne
  | cons m ms ih =>
    have hm := h m List.mem_cons_self (.members done (inner m.1) :: stack)
    have hmember : (textToken m.1 :: .colon :: m.2.tokens).foldlM State.push (.nextKey done stack)
        = some (.after m.2.tree (.members done (inner m.1) :: stack)) := hm
    cases ms with
    | nil =>
      rw [List.map_singleton, commas, List.foldlM_append, hmember, List.map_singleton,
        ← List.reverse_cons]
      rfl
    | cons m' ms =>
      have hrest := ih (fun m hm => h m (List.mem_cons_of_mem _ hm)) (List.cons_ne_nil _ _)
        ((inner m.1, m.2.tree) :: done)
      rw [List.reverse_cons, List.append_assoc, List.singleton_append] at hrest
      rw [List.map_cons, List.map_cons, commas_cons_cons, List.append_assoc, List.foldlM_append,
        hmember]
      exact hrest

/-- No value begins with what ends an array. -/
theorem push_firstItem {v : Value} (h : v.IsExact) (ts : List Token) (stack : List Frame) :
    (v.tokens ++ ts).foldlM State.push (.firstItem stack)
      = (v.tokens ++ ts).foldlM State.push (.value (.items [] :: stack)) := by
  cases v with
  | float x => cases h
  | bool b => cases b <;> rfl
  | null | int | text | array | object => rfl

/-- **Every value without binary numbers is built from its tokens.** -/
theorem builds {v : Value} (h : v.IsExact) : v.Builds := by
  induction v using induction with
  | null | text => exact fun stack => rfl
  | bool b => cases b <;> exact fun stack => rfl
  | int n =>
    intro stack
    rw [tokens, List.foldlM_cons, State.push, State.startValue, ofWord?_int]
    rfl
  | float x => cases h
  | array items ih =>
    have hexact := isExact_array_iff.mp h
    intro stack
    rw [tokens, tree, itemTokens_eq_map, itemTrees_eq_map]
    cases items with
    | nil => rfl
    | cons v vs =>
      have hitems := foldlM_push_items (fun v hv => ih v hv (hexact v hv)) (List.cons_ne_nil v vs)
        [] stack
      have hfirst : (commas ((v :: vs).map tokens) ++ [Token.closeArray]).foldlM State.push
            (.firstItem stack)
          = (commas ((v :: vs).map tokens) ++ [Token.closeArray]).foldlM State.push
            (.value (.items [] :: stack)) := by
        cases vs with
        | nil => exact push_firstItem (hexact v List.mem_cons_self) _ _
        | cons v' vs =>
          rw [List.map_cons, List.map_cons, commas_cons_cons, List.append_assoc]
          exact push_firstItem (hexact v List.mem_cons_self) _ _
      exact hfirst.trans hitems
  | object members ih =>
    have hexact := isExact_object_iff.mp h
    intro stack
    rw [tokens, tree, memberTokens_eq_map, memberTrees_eq_map]
    cases members with
    | nil => rfl
    | cons m ms =>
      have hmembers := foldlM_push_members (fun m hm => ih m hm (hexact m hm))
        (List.cons_ne_nil m ms) [] stack
      cases ms with
      | nil => exact hmembers
      | cons m' ms => exact hmembers

end Value

/-! ## From the text to the tree -/

namespace Tree

theorem parse?_compact {v : Value} (h : v.IsExact) :
    parse? (v.compact.flatMap String.utf8EncodeChar) = some v.tree := by
  rw [parse?, (Value.spells_compact h).tokens?_eq, Option.bind_some, ofTokens?, Value.builds h,
    Option.bind_some]
  rfl

/-- **A value is read back from its text without blanks.** -/
theorem ofText?_render {v : Value} (h : v.IsExact) : ofText? v.render = some v.tree := by
  rw [ofText?, Value.render, Utf8.encode_ofList, parse?_compact h]

/-- **A value is read back from its canonical form**, with its members in canonical order. -/
theorem parse?_canonicalBytes {v : Value} (h : v.IsExact) :
    parse? v.canonicalBytes = some v.arranged.tree := by
  rw [Value.canonicalBytes, Utf8.encode_ofList, Value.canonical_eq_compact,
    parse?_compact h.arranged]

end Tree

end ProofLogin.Json
