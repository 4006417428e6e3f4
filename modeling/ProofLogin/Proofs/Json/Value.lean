import ProofLogin.Json.Canonical
import ProofLogin.Json.Record
import ProofLogin.Proofs.Ordered

/-!
# Proofs/Json/Value — what is proved of a value is proved of what it holds

`Value.induction` is the one induction on values: the items of an array and the values of the
members of an object may be assumed.  With the mutual recursions of the library read as maps, a
statement about every value is then a statement about lists.

`Value.arranged` puts the members of every object in canonical order once and for all, and
`canonical_eq_compact` says that the canonical text is the plain text of the arranged value.
-/

namespace ProofLogin.Json.Value

/-! ## Induction -/

/-- **Induction on values**: through the items of arrays and the members of objects. -/
@[elab_as_elim] theorem induction {motive : Value → Prop} (null : motive .null)
    (bool : ∀ b, motive (.bool b)) (int : ∀ n, motive (.int n)) (float : ∀ x, motive (.float x))
    (text : ∀ s, motive (.text s))
    (array : ∀ items, (∀ v ∈ items, motive v) → motive (.array items))
    (object : ∀ members, (∀ m ∈ members, motive m.2) → motive (.object members)) :
    ∀ v, motive v
  | .null => null
  | .bool b => bool b
  | .int n => int n
  | .float x => float x
  | .text s => text s
  | .array items => array items fun v _ =>
    induction null bool int float text array object v
  | .object members => object members fun m _ =>
    induction null bool int float text array object m.2
decreasing_by
  · have := List.sizeOf_lt_of_mem ‹_›
    simp only [Value.array.sizeOf_spec]
    omega
  · have := List.sizeOf_lt_of_mem ‹m ∈ members›
    obtain ⟨k, v⟩ := m
    simp only [Value.object.sizeOf_spec, Prod.mk.sizeOf_spec] at this ⊢
    omega

/-! ## The mutual recursions as maps -/

theorem compactItems_eq_map (vs : List Value) : compactItems vs = vs.map compact := by
  induction vs with
  | nil => rfl
  | cons v vs ih => rw [compactItems, ih, List.map_cons]

theorem compactMembers_eq_map (ms : List (String × Value)) :
    compactMembers ms = ms.map fun m => literal m.1 ++ ':' :: m.2.compact := by
  induction ms with
  | nil => rfl
  | cons m ms ih => rw [compactMembers, ih, List.map_cons]

theorem canonicalItems_eq_map (vs : List Value) : canonicalItems vs = vs.map canonical := by
  induction vs with
  | nil => rfl
  | cons v vs ih => rw [canonicalItems, ih, List.map_cons]

theorem canonicalMembers_eq_map (ms : List (String × Value)) :
    canonicalMembers ms = ms.map fun m => (literal m.1, m.2.canonical) := by
  induction ms with
  | nil => rfl
  | cons m ms ih => rw [canonicalMembers, ih, List.map_cons]

/-! ## Values without binary numbers -/

/-- **Every number of the value is an integer.** -/
def IsExact (v : Value) : Prop := v.firstFloat? = none

instance (v : Value) : Decidable v.IsExact := inferInstanceAs (Decidable (_ = _))

theorem firstFloatItem?_eq_none_iff {vs : List Value} :
    firstFloatItem? vs = none ↔ ∀ v ∈ vs, v.IsExact := by
  induction vs with
  | nil => simp [firstFloatItem?]
  | cons v vs ih => simp [firstFloatItem?, IsExact, ih]

theorem firstFloatMember?_eq_none_iff {ms : List (String × Value)} :
    firstFloatMember? ms = none ↔ ∀ m ∈ ms, m.2.IsExact := by
  induction ms with
  | nil => simp [firstFloatMember?]
  | cons m ms ih => simp [firstFloatMember?, IsExact, ih]

theorem isExact_array_iff {vs : List Value} : IsExact (.array vs) ↔ ∀ v ∈ vs, v.IsExact :=
  firstFloatItem?_eq_none_iff

theorem isExact_object_iff {ms : List (String × Value)} :
    IsExact (.object ms) ↔ ∀ m ∈ ms, m.2.IsExact :=
  firstFloatMember?_eq_none_iff

/-! ## Values in canonical order -/

/-- The order of the members of a canonical object: by their keys as they are written. -/
def memberBefore (m m' : String × Value) : Bool :=
  Written.before (literal m.1, []) (literal m'.1, [])

mutual

/-- **The value with the members of every object in canonical order.** -/
def arranged : Value → Value
  | .array items => .array (arrangedItems items)
  | .object members => .object (Ordered.sort memberBefore (arrangedMembers members))
  | v => v

/-- Every item with the members of every object in canonical order. -/
def arrangedItems : List Value → List Value
  | [] => []
  | v :: vs => arranged v :: arrangedItems vs

/-- Every member with the members of every object in canonical order. -/
def arrangedMembers : List (String × Value) → List (String × Value)
  | [] => []
  | (k, v) :: ms => (k, arranged v) :: arrangedMembers ms

end

theorem arrangedItems_eq_map (vs : List Value) : arrangedItems vs = vs.map arranged := by
  induction vs with
  | nil => rfl
  | cons v vs ih => rw [arrangedItems, ih, List.map_cons]

theorem arrangedMembers_eq_map (ms : List (String × Value)) :
    arrangedMembers ms = ms.map fun m => (m.1, m.2.arranged) := by
  induction ms with
  | nil => rfl
  | cons m ms ih => rw [arrangedMembers, ih, List.map_cons]

/-- **The canonical text of a value is the plain text of the arranged value.** -/
theorem canonical_eq_compact (v : Value) : v.canonical = v.arranged.compact := by
  induction v using induction with
  | null | bool | int | float | text => rfl
  | array items ih =>
    have hitems : canonicalItems items = compactItems (arrangedItems items) := by
      rw [canonicalItems_eq_map, arrangedItems_eq_map, compactItems_eq_map, List.map_map]
      exact List.map_congr_left ih
    rw [canonical, hitems, arranged, compact]
  | object members ih =>
    have hmembers : canonicalMembers members
        = (arrangedMembers members).map fun m => (literal m.1, m.2.compact) := by
      rw [canonicalMembers_eq_map, arrangedMembers_eq_map, List.map_map]
      exact List.map_congr_left fun m hm => congrArg (literal m.1, ·) (ih m hm)
    have hsort : Ordered.sort Written.before
          ((arrangedMembers members).map fun m => (literal m.1, m.2.compact))
        = (Ordered.sort memberBefore (arrangedMembers members)).map
          fun m => (literal m.1, m.2.compact) :=
      Ordered.sort_map _ (fun _ _ => rfl) _
    rw [canonical, hmembers, hsort, arranged, compact, compactMembers_eq_map, List.map_map]
    rfl

theorem IsExact.arranged {v : Value} (h : v.IsExact) : v.arranged.IsExact := by
  induction v using induction with
  | null | bool | int | float | text => exact h
  | array items ih =>
    rw [Value.arranged, isExact_array_iff, arrangedItems_eq_map]
    intro v hv
    obtain ⟨u, hu, rfl⟩ := List.mem_map.mp hv
    exact ih u hu (isExact_array_iff.mp h u hu)
  | object members ih =>
    rw [Value.arranged, isExact_object_iff, arrangedMembers_eq_map]
    intro m hm
    obtain ⟨u, hu, rfl⟩ := List.mem_map.mp ((Ordered.sort_perm _ _).mem_iff.mp hm)
    exact ih u hu (isExact_object_iff.mp h u hu)

end ProofLogin.Json.Value
