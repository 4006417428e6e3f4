import ProofLogin.Proofs.Json.Tree
import ProofLogin.Proofs.Outcome

/-!
# Proofs/Json/Record — a record is read back from its object

`Record.ofMembers?_eq_map`: the slots of a record are look-ups, whatever the order of the members
and whatever stands among them.  `Tree.record?_tree` and `Tree.record?_arranged` say so of the tree
of a written object, in the order of the record and in canonical order.

A record that was written with the names it is read with is read member by member
(`Tree.record?_object`, `Tree.record?_objectOf`), so that a type comes back as soon as the types of
its members do.
-/

namespace ProofLogin

/-! ## Slots -/

namespace Record

variable {α : Type}

/-- **A member is put in its place, unless the place is taken.** -/
theorem place_map (key : String) (a : α) {names : List String} (hn : names.Nodup)
    (f : String → Option α) :
    place key a names (names.map f) = if key ∈ names ∧ (f key).isSome then none
      else some (names.map fun n => if n = key then some a else f n) := by
  induction names with
  | nil => rfl
  | cons name names ih =>
    rw [List.nodup_cons] at hn
    rw [List.map_cons, place, List.map_cons]
    by_cases hname : name = key
    case pos =>
      subst hname
      have hrest : names.map (fun n => if n = name then some a else f n) = names.map f :=
        List.map_congr_left fun n hmem => if_neg fun (heq : n = name) => hn.1 (heq ▸ hmem)
      simp [hrest]
    case neg =>
      have hmem : key ∈ name :: names ↔ key ∈ names := by simp [Ne.symm hname]
      rw [if_neg hname, ih hn.2, if_neg hname]
      simp only [hmem]
      split <;> rfl

theorem foldlM_placeMember {names : List String} (hn : names.Nodup)
    {members : List (String × α)} (hk : (members.map Prod.fst).Nodup) {f : String → Option α}
    (hf : ∀ m ∈ members, f m.1 = none) :
    members.foldlM (placeMember names) (names.map f)
      = some (names.map fun n => (f n).or (members.lookup n)) := by
  induction members generalizing f with
  | nil => simp
  | cons m members ih =>
    rw [List.map_cons, List.nodup_cons] at hk
    have hne (m') (hm' : m' ∈ members) : m'.1 ≠ m.1 := fun h =>
      hk.1 (List.mem_map.mpr ⟨m', hm', h⟩)
    have hm := hf m List.mem_cons_self
    rw [List.foldlM_cons, placeMember, place_map m.1 m.2 hn, if_neg (by simp [hm]),
      Option.bind_eq_bind, Option.bind_some, ih hk.2 fun m' hm' => by
        rw [if_neg (hne m' hm')]
        exact hf m' (List.mem_cons_of_mem _ hm')]
    refine congrArg some (List.map_congr_left fun n _ => ?_)
    rw [List.lookup_cons]
    by_cases h : n = m.1
    · simp [h, hm]
    · simp [h, beq_eq_false_iff_ne.mpr h]

/-- **The slots of a record are look-ups among the members.** -/
theorem ofMembers?_eq_map {names : List String} (hn : names.Nodup) {members : List (String × α)}
    (hk : (members.map Prod.fst).Nodup) :
    ofMembers? names members = some (names.map fun n => members.lookup n) := by
  rw [ofMembers?, foldlM_placeMember hn hk fun _ _ => rfl]
  simp only [Option.none_or]

/-- **A part of a record is read as in the whole record**, from members whose places were free. -/
theorem foldlM_placeMember_of_subset {names part : List String} (hn : names.Nodup)
    (hp : part.Nodup) (hsub : part ⊆ names) {members : List (String × α)} {f : String → Option α}
    {slots : List (Option α)}
    (h : members.foldlM (placeMember names) (names.map f) = some slots) :
    ∃ g, slots = names.map g
      ∧ members.foldlM (placeMember part) (part.map f) = some (part.map g) := by
  induction members generalizing f with
  | nil => exact ⟨f, (Option.some.inj h).symm, rfl⟩
  | cons m members ih =>
    rw [List.foldlM_cons, placeMember, place_map m.1 m.2 hn] at h
    rw [List.foldlM_cons, placeMember, place_map m.1 m.2 hp]
    split at h
    case isTrue => cases h
    case isFalse hfree =>
      rw [if_neg fun htaken => hfree ⟨hsub htaken.1, htaken.2⟩]
      exact ih h

/-- **Fewer names are read from the members of a record as all of them are.** -/
theorem ofMembers?_of_subset {names part : List String} (hn : names.Nodup) (hp : part.Nodup)
    (hsub : part ⊆ names) {members : List (String × α)} {slots : List (Option α)}
    (h : ofMembers? names members = some slots) :
    ∃ g, slots = names.map g ∧ ofMembers? part members = some (part.map g) :=
  foldlM_placeMember_of_subset hn hp hsub h

@[simp] theorem required?_some {β : Type} (read : α → Option β) (a : α) :
    required? read (some a) = read a := rfl

@[simp] theorem withDefault?_some {β : Type} (default : β) (read : α → Option β) (a : α) :
    withDefault? default read (some a) = read a := rfl

end Record

/-! ## Members -/

namespace Json

theorem lookup_map_snd {α β : Type} (f : α → β) (ms : List (String × α)) (n : String) :
    (ms.map fun m => (m.1, f m.2)).lookup n = (ms.lookup n).map f := by
  induction ms with
  | nil => rfl
  | cons m ms ih =>
    rw [List.map_cons, List.lookup_cons, List.lookup_cons]
    split
    · rfl
    · exact ih

theorem map_fst_filterMap_sublist {α : Type} (ms : List (String × Option α)) :
    ((ms.filterMap fun (k, v?) => v?.map fun v => (k, v)).map Prod.fst).Sublist
      (ms.map Prod.fst) := by
  induction ms with
  | nil => exact .slnil
  | cons m ms ih =>
    obtain ⟨k, _ | v⟩ := m
    · exact ih.cons k
    · exact ih.cons_cons k

theorem lookup_filterMap {α : Type} {ms : List (String × Option α)}
    (hk : (ms.map Prod.fst).Nodup) (n : String) :
    (ms.filterMap fun (k, v?) => v?.map fun v => (k, v)).lookup n = (ms.lookup n).join := by
  induction ms with
  | nil => rfl
  | cons m ms ih =>
    rw [List.map_cons, List.nodup_cons] at hk
    obtain ⟨k, v?⟩ := m
    rw [List.lookup_cons]
    by_cases h : n = k
    · subst h
      have hrest : (ms.filterMap fun (k, v?) => v?.map fun v => (k, v)).lookup n = none := by
        rw [List.lookup_eq_none_iff]
        intro p hp
        refine bne_iff_ne.mpr fun heq => hk.1 ?_
        exact (map_fst_filterMap_sublist ms).subset (List.mem_map.mpr ⟨p, hp, heq.symm⟩)
      cases v? with
      | none => simpa using hrest
      | some v => simp
    · rw [beq_eq_false_iff_ne.mpr h, ← ih hk.2]
      cases v? with
      | none => rfl
      | some v => simp [List.lookup_cons, beq_eq_false_iff_ne.mpr h]

namespace Tree

theorem mapM_named? (ms : List (String × Value)) :
    (ms.map fun m => (inner m.1, m.2.tree)).mapM named?
      = some (ms.map fun m => (m.1, m.2.tree)) := by
  refine Outcome.mapM_map_some fun m _ => ?_
  rw [named?, unescape?_inner]
  rfl

/-- Fewer names are read from the members of an object as all of them are. -/
theorem members?_of_subset {names part : List String} (hn : names.Nodup) (hp : part.Nodup)
    (hsub : part ⊆ names) {ms : List (Bytes × Tree)} {slots : List (Option Tree)}
    (h : members? names ms = some slots) :
    ∃ g, slots = names.map g ∧ members? part ms = some (part.map g) := by
  obtain ⟨named, hnamed, h⟩ := Option.bind_eq_some_iff.mp h
  obtain ⟨g, hslots, hpart⟩ := Record.ofMembers?_of_subset hn hp hsub h
  exact ⟨g, hslots, Option.bind_eq_some_iff.mpr ⟨named, hnamed, hpart⟩⟩

/-- **The slots of a record are look-ups in the object that was written.** -/
theorem record?_tree {names : List String} (hn : names.Nodup) {ms : List (String × Value)}
    (hk : (ms.map Prod.fst).Nodup) :
    record? names (Value.tree (.object ms))
      = some (names.map fun n => (ms.lookup n).map Value.tree) := by
  have hk' : ((ms.map fun m => (m.1, m.2.tree)).map Prod.fst).Nodup := by
    rwa [List.map_map]
  rw [Value.tree, Value.memberTrees_eq_map, record?, members?, mapM_named?, Option.bind_eq_bind,
    Option.bind_some, Record.ofMembers?_eq_map hn hk']
  simp only [lookup_map_snd]

/-- The canonical order of the members does not matter. -/
theorem record?_arranged {names : List String} (hn : names.Nodup) {ms : List (String × Value)}
    (hk : (ms.map Prod.fst).Nodup) :
    record? names (Value.arranged (.object ms)).tree
      = some (names.map fun n => (ms.lookup n).map fun v => v.arranged.tree) := by
  have hperm := Ordered.sort_perm Value.memberBefore (ms.map fun m => (m.1, m.2.arranged))
  have hk' : ((ms.map fun m => (m.1, m.2.arranged)).map Prod.fst).Nodup := by
    rwa [List.map_map]
  rw [Value.arranged, Value.arrangedMembers_eq_map,
    record?_tree hn ((hperm.map Prod.fst).nodup_iff.mpr hk')]
  refine congrArg some (List.map_congr_left fun n _ => ?_)
  rw [← Ordered.lookup_of_perm hperm.symm hk', lookup_map_snd, Option.map_map]
  rfl

/-- **A record is read in the order in which it was written.** -/
theorem record?_object {names : List String} (hn : names.Nodup) {ms : List (String × Value)}
    (hms : ms.map Prod.fst = names) :
    record? names (Value.tree (.object ms)) = some (ms.map fun m => some m.2.tree) := by
  subst hms
  rw [record?_tree hn hn, List.map_map]
  refine congrArg some (List.map_congr_left fun m hm => ?_)
  rw [Function.comp_apply, Ordered.lookup_of_mem hn hm, Option.map_some]

/-- Members that have been left out are missing where the record is read. -/
theorem record?_objectOf {names : List String} (hn : names.Nodup)
    {ms : List (String × Option Value)} (hms : ms.map Prod.fst = names) :
    record? names (Value.objectOf ms).tree = some (ms.map fun m => m.2.map Value.tree) := by
  subst hms
  rw [Value.objectOf, record?_tree hn ((map_fst_filterMap_sublist ms).nodup hn), List.map_map]
  refine congrArg some (List.map_congr_left fun m hm => ?_)
  rw [Function.comp_apply, lookup_filterMap hn, Ordered.lookup_of_mem hn hm, Option.join_some]

/-- The slots of a record from which members have been left out, in canonical order. -/
theorem record?_arranged_objectOf {names : List String} (hn : names.Nodup)
    {ms : List (String × Option Value)} (hk : (ms.map Prod.fst).Nodup) :
    record? names (Value.objectOf ms).arranged.tree
      = some (names.map fun n => (ms.lookup n).join.map fun v => v.arranged.tree) := by
  rw [Value.objectOf, record?_arranged hn ((map_fst_filterMap_sublist ms).nodup hk)]
  simp only [lookup_filterMap hk]

/-! ## Single values -/

@[simp] theorem text?_tree (s : String) : text? (Value.tree (.text s)) = some s :=
  unescape?_inner s

@[simp] theorem bool?_tree (b : Bool) : bool? (Value.tree (.bool b)) = some b := rfl

@[simp] theorem int32?_tree (n : Int32) : int32? (Value.ofInt32 n).tree = some n := by
  have hlow := n.le_toInt
  have hhigh := n.toInt_lt
  rw [Value.ofInt32, Value.tree, int32?, integer?, if_pos (by omega), Option.map_some,
    Int32.ofInt_toInt]

@[simp] theorem uint32?_tree (n : UInt32) : uint32? (Value.ofUInt32 n).tree = some n := by
  have hn := n.toNat_lt
  rw [Value.ofUInt32, Value.tree, uint32?, integer?, if_pos (by omega), Option.map_some,
    Int.toNat_natCast, UInt32.ofNat_toNat]

@[simp] theorem uint64?_tree (n : UInt64) : uint64? (Value.ofUInt64 n).tree = some n := by
  have hn := n.toNat_lt
  rw [Value.ofUInt64, Value.tree, uint64?, integer?, if_pos (by omega), Option.map_some,
    Int.toNat_natCast, UInt64.ofNat_toNat]

@[simp] theorem int64?_tree (n : Int64) : int64? (Value.ofInt64 n).tree = some n := by
  have hlow := n.le_toInt
  have hhigh := n.toInt_lt
  rw [Value.ofInt64, Value.tree, int64?, integer?, if_pos (by omega), Option.map_some,
    Int64.ofInt_toInt]

/-- A name is read as what it names. -/
theorem name?_tree {α : Type} {names : List (String × α)} {s : String} {a : α}
    (h : names.lookup s = some a) : name? names (Value.tree (.text s)) = some a := by
  rw [Value.tree, name?, unescape?_inner]
  exact h

/-- The items of a list. -/
theorem list?_tree {α : Type} {read : Tree → Option α} {write : α → Value} {as : List α}
    (h : ∀ a ∈ as, read (write a).tree = some a) :
    list? read (Value.tree (.array (as.map write))) = some as := by
  have hread (a) (ha : a ∈ as) : read (write a).tree = some (id a) := h a ha
  rw [Value.tree, Value.itemTrees_eq_map, List.map_map, list?]
  exact (Outcome.mapM_map_some hread).trans (congrArg some (List.map_id as))

theorem optional?_of_ne {α : Type} {read : Tree → Option α} {t : Tree} (h : t ≠ .null) :
    optional? read t = (read t).map some := by
  cases t with
  | null => exact absurd rfl h
  | _ => rfl

/-- Something that may be missing and is written as `null` then. -/
theorem optional?_ofOption {α : Type} {read : Tree → Option α} {write : α → Value} {a? : Option α}
    (h : ∀ a, a? = some a → (write a).tree ≠ .null ∧ read (write a).tree = some a) :
    optional? read (Value.ofOption write a?).tree = some a? := by
  cases a? with
  | none => rfl
  | some a =>
    obtain ⟨hne, hread⟩ := h a rfl
    rw [Value.ofOption, optional?_of_ne hne, hread, Option.map_some]

/-- Something that may be missing and is left out then. -/
theorem withDefault?_optional?_map {α : Type} {read : Tree → Option α} {write : α → Value}
    {a? : Option α} (h : ∀ a, a? = some a → (write a).tree ≠ .null ∧ read (write a).tree = some a) :
    Record.withDefault? none (optional? read) (a?.map fun a => (write a).tree) = some a? := by
  cases a? with
  | none => rfl
  | some a =>
    obtain ⟨hne, hread⟩ := h a rfl
    exact (optional?_of_ne hne).trans (congrArg (Option.map some) hread)

/-- **Something that may be missing is missing** where it is left out, or `null`. -/
theorem eq_none_iff_of_withDefault? {α : Type} {read : Tree → Option α} {slot : Option Tree}
    {a? : Option α} (h : Record.withDefault? none (optional? read) slot = some a?) :
    a? = none ↔ slot = none ∨ slot = some .null := by
  cases slot with
  | none =>
    obtain rfl := Option.some.inj h
    exact iff_of_true rfl (.inl rfl)
  | some t =>
    rw [Record.withDefault?_some] at h
    by_cases ht : t = .null
    · subst ht
      obtain rfl := Option.some.inj h
      exact iff_of_true rfl (.inr rfl)
    · rw [optional?_of_ne ht] at h
      obtain ⟨a, -, rfl⟩ := Option.map_eq_some_iff.mp h
      simp [ht]

@[simp] theorem arranged_text (s : String) : (Value.text s).arranged = .text s := rfl

@[simp] theorem arranged_ofInt32 (n : Int32) : (Value.ofInt32 n).arranged = .ofInt32 n := rfl

@[simp] theorem arranged_ofUInt64 (n : UInt64) : (Value.ofUInt64 n).arranged = .ofUInt64 n := rfl

@[simp] theorem arranged_ofInt64 (n : Int64) : (Value.ofInt64 n).arranged = .ofInt64 n := rfl

/-- A text that may be missing. -/
@[simp] theorem withDefault?_optional? (s? : Option String) :
    Record.withDefault? none (optional? text?) (s?.map fun s => (Value.text s).tree) = some s? := by
  exact withDefault?_optional?_map fun s _ => ⟨(fun h => nomatch h), text?_tree s⟩

end Tree

end Json

end ProofLogin
