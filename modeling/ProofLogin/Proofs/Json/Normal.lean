import ProofLogin.Proofs.Json.Tree
import ProofLogin.Proofs.Outcome

/-!
# Proofs/Json/Normal — what the values are that a reader finds

    octets ──▸ tree ──▸ normal value ──arranged──▸ tree ──▸ the same value

A value that was read is `Normal`: its integers have 64 bits, its keys increase, and it does not
nest too deep (`normal_of_ofTree?`). A normal value without binary numbers is what its own tree
means, also when the members of its objects have been arranged in canonical order
(`Normal.ofTree?_arranged`): putting them in increasing order takes the arranging back.
-/

namespace ProofLogin.Json

/-- **Induction on trees**: through the items of arrays and the members of objects. -/
@[elab_as_elim] theorem Tree.induction {motive : Tree → Prop} (null : motive .null)
    (bool : ∀ b, motive (.bool b)) (number : ∀ n, motive (.number n))
    (text : ∀ octets, motive (.text octets))
    (array : ∀ items, (∀ t ∈ items, motive t) → motive (.array items))
    (object : ∀ members, (∀ m ∈ members, motive m.2) → motive (.object members)) :
    ∀ t, motive t
  | .null => null
  | .bool b => bool b
  | .number n => number n
  | .text octets => text octets
  | .array items => array items fun t _ => induction null bool number text array object t
  | .object members => object members fun m _ => induction null bool number text array object m.2
decreasing_by
  · have := List.sizeOf_lt_of_mem ‹_›
    simp only [Tree.array.sizeOf_spec]
    omega
  · have := List.sizeOf_lt_of_mem ‹m ∈ members›
    obtain ⟨k, t⟩ := m
    simp only [Tree.object.sizeOf_spec, Prod.mk.sizeOf_spec] at this ⊢
    omega

namespace Value

theorem ofItems?_eq_mapM (room : Nat) (ts : List Tree) :
    ofItems? room ts = ts.mapM (ofTree? room) := by
  induction ts with
  | nil => rfl
  | cons t ts ih => rw [ofItems?, ih, List.mapM_cons]

/-- The key and the value of a member. -/
def ofMember? (room : Nat) (m : Bytes × Tree) : Option (String × Value) := do
  return (← unescape? m.1, ← ofTree? room m.2)

theorem ofMembers?_eq_mapM (room : Nat) (ms : List (Bytes × Tree)) :
    ofMembers? room ms = ms.mapM (ofMember? room) := by
  induction ms with
  | nil => rfl
  | cons m ms ih =>
    rw [ofMembers?, ih, List.mapM_cons, ofMember?]
    cases unescape? m.1 with
    | none => rfl
    | some k => cases ofTree? room m.2 <;> rfl

/-! ## Normal values -/

/-- **A value that can have been read**, with `room` for arrays and objects in each other. -/
inductive Normal : Nat → Value → Prop
  | null {room : Nat} : Normal room .null
  | bool {room : Nat} (b : Bool) : Normal room (.bool b)
  | int {room : Nat} {n : Int} (h : isInteger64 n = true) : Normal room (.int n)
  | float {room : Nat} (x : Binary64) : Normal room (.float x)
  | text {room : Nat} (s : String) : Normal room (.text s)
  | array {room : Nat} {items : List Value} (h : ∀ v ∈ items, Normal room v) :
    Normal (room + 1) (.array items)
  | object {room : Nat} {members : List (String × Value)} (hkeys : Ordered.Increasing members)
    (h : ∀ m ∈ members, Normal room m.2) : Normal (room + 1) (.object members)

theorem normal_of_ofNumeral? {n : Numeral} {room : Nat} {v : Value} (h : ofNumeral? n = some v) :
    Normal room v := by
  have hfloat {v : Value} (h : n.toBinary64?.map .float = some v) : Normal room v := by
    obtain ⟨x, -, rfl⟩ := Option.map_eq_some_iff.mp h
    exact .float x
  cases n with
  | integer i =>
    rw [ofNumeral?] at h
    split at h
    case isTrue hi =>
      obtain rfl := Option.some.inj h
      exact .int hi
    case isFalse => exact hfloat h
  | decimal negative significand exponent => exact hfloat h

/-- **A value that was read is normal.** -/
theorem normal_of_ofTree? {t : Tree} {room : Nat} {v : Value} (h : ofTree? room t = some v) :
    Normal room v := by
  induction t using Tree.induction generalizing room v with
  | null => obtain rfl := Option.some.inj h; exact .null
  | bool b => obtain rfl := Option.some.inj h; exact .bool b
  | number n => exact normal_of_ofNumeral? h
  | text octets =>
    obtain ⟨s, -, rfl⟩ := Option.map_eq_some_iff.mp h
    exact .text s
  | array items ih =>
    rw [ofTree?] at h
    obtain ⟨hroom, h⟩ := Option.ite_none_left_eq_some.mp h
    obtain ⟨room, rfl⟩ := Nat.exists_eq_succ_of_ne_zero hroom
    obtain ⟨vs, hvs, rfl⟩ := Option.map_eq_some_iff.mp h
    rw [ofItems?_eq_mapM] at hvs
    refine .array fun v hv => ?_
    obtain ⟨t, ht, hread⟩ := Outcome.exists_mem_of_mapM hvs hv
    exact ih t ht hread
  | object members ih =>
    rw [ofTree?] at h
    obtain ⟨hroom, h⟩ := Option.ite_none_left_eq_some.mp h
    obtain ⟨room, rfl⟩ := Nat.exists_eq_succ_of_ne_zero hroom
    obtain ⟨ms, hms, rfl⟩ := Option.map_eq_some_iff.mp h
    rw [ofMembers?_eq_mapM] at hms
    refine .object (Ordered.increasing_foldl_put .nil ms) fun m hm => ?_
    have hm : m ∈ ms := (Ordered.mem_of_mem_foldl_put hm).resolve_right List.not_mem_nil
    obtain ⟨m', hm', hread⟩ := Outcome.exists_mem_of_mapM hms hm
    rw [ofMember?] at hread
    obtain ⟨k, -, hread⟩ := Option.bind_eq_some_iff.mp hread
    obtain ⟨v, hv, hread⟩ := Option.bind_eq_some_iff.mp hread
    obtain rfl := Option.some.inj hread
    exact ih m' hm' hv

theorem tree_arranged_array (items : List Value) :
    (arranged (.array items)).tree = .array (items.map fun v => v.arranged.tree) := by
  rw [arranged, tree, arrangedItems_eq_map, itemTrees_eq_map, List.map_map]
  rfl

/-- The members are moved and each of them is arranged, in either order. -/
theorem tree_arranged_object (members : List (String × Value)) :
    (arranged (.object members)).tree
      = .object ((Ordered.sort memberBefore members).map
        fun m => (inner m.1, m.2.arranged.tree)) := by
  have hsort : Ordered.sort memberBefore (members.map fun m => (m.1, m.2.arranged))
      = (Ordered.sort memberBefore members).map fun m => (m.1, m.2.arranged) :=
    Ordered.sort_map _ (fun _ _ => rfl) members
  rw [arranged, arrangedMembers_eq_map, hsort, tree, memberTrees_eq_map, List.map_map]
  rfl

/-- **A normal value without binary numbers is what its tree means**, whatever order its members
have been arranged in. -/
theorem Normal.ofTree?_arranged {room : Nat} {v : Value} (h : v.Normal room) (hexact : v.IsExact) :
    ofTree? room v.arranged.tree = some v := by
  induction h with
  | null | bool => rfl
  | int h => exact if_pos h
  | float x => cases hexact
  | text s => exact congrArg (Option.map Value.text) (unescape?_inner s)
  | @array room items _ ih =>
    have hitems : (items.map fun v => v.arranged.tree).mapM (ofTree? room) = some items := by
      have hread (v) (hv : v ∈ items) : ofTree? room v.arranged.tree = some (id v) :=
        ih v hv (isExact_array_iff.mp hexact v hv)
      rw [Outcome.mapM_map_some hread, List.map_id]
    rw [tree_arranged_array, ofTree?, if_neg (Nat.succ_ne_zero room), Nat.add_sub_cancel,
      ofItems?_eq_mapM]
    exact congrArg (Option.map Value.array) hitems
  | @object room members hkeys _ ih =>
    have hperm := Ordered.sort_perm memberBefore members
    have hmembers : ((Ordered.sort memberBefore members).map fun m =>
        (inner m.1, m.2.arranged.tree)).mapM (ofMember? room)
          = some (Ordered.sort memberBefore members) := by
      have hread (m) (hm : m ∈ Ordered.sort memberBefore members) :
          ofMember? room (inner m.1, m.2.arranged.tree) = some (id m) := by
        have hm := hperm.mem_iff.mp hm
        rw [ofMember?, unescape?_inner, ih m hm (isExact_object_iff.mp hexact m hm)]
        rfl
      rw [Outcome.mapM_map_some hread, List.map_id]
    have hput : sortMembers (Ordered.sort memberBefore members) = members :=
      Ordered.foldl_put_of_perm hkeys hperm
    rw [tree_arranged_object, ofTree?, if_neg (Nat.succ_ne_zero room), Nat.add_sub_cancel,
      ofMembers?_eq_mapM]
    refine (congrArg (Option.map _) hmembers).trans ?_
    rw [Option.map_some, Function.comp_apply, hput]

/-! ## Written values -/

theorem ofTree?_text (room : Nat) (s : String) :
    ofTree? room (Value.text s).tree = some (.text s) :=
  (Normal.text s).ofTree?_arranged rfl

theorem ofTree?_int (room : Nat) {n : Int} (h : -0x8000000000000000 ≤ n ∧ n < 0x10000000000000000) :
    ofTree? room (Value.int n).tree = some (.int n) := by
  have hn : isInteger64 n = true := by
    rw [isInteger64, Bool.and_eq_true, decide_eq_true_iff, decide_eq_true_iff]
    exact h
  exact (Normal.int hn).ofTree?_arranged rfl

theorem ofTree?_ofInt32 (room : Nat) (n : Int32) :
    ofTree? room (Value.ofInt32 n).tree = some (.ofInt32 n) := by
  have hlow := n.le_toInt
  have hhigh := n.toInt_lt
  exact ofTree?_int room (by omega)

theorem ofTree?_ofUInt64 (room : Nat) (n : UInt64) :
    ofTree? room (Value.ofUInt64 n).tree = some (.ofUInt64 n) := by
  have hn := n.toNat_lt
  exact ofTree?_int room (by omega)

/-- **An object has a value as soon as its members have**, in whatever order it was written. -/
theorem exists_ofTree?_object {room : Nat} {ms : List (String × Value)}
    (h : ∀ m ∈ ms, ∃ v, ofTree? room m.2.tree = some v) :
    ∃ v, ofTree? (room + 1) (Value.tree (.object ms)) = some v := by
  have hmember (m) (hm : m ∈ ms.map fun m => (inner m.1, m.2.tree)) :
      ∃ m', ofMember? room m = some m' := by
    obtain ⟨u, hu, rfl⟩ := List.mem_map.mp hm
    obtain ⟨v, hv⟩ := h u hu
    refine ⟨(u.1, v), ?_⟩
    rw [ofMember?, unescape?_inner, hv]
    rfl
  obtain ⟨ms', hms'⟩ := Outcome.exists_mapM hmember
  rw [tree, memberTrees_eq_map, ofTree?, if_neg (Nat.succ_ne_zero room), Nat.add_sub_cancel,
    ofMembers?_eq_mapM, hms']
  exact ⟨_, rfl⟩

end Value

end ProofLogin.Json
