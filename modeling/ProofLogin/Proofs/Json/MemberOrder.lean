import ProofLogin.Proofs.Json.Canonical
import ProofLogin.Proofs.Json.NameOrder
import ProofLogin.Proofs.Json.Record

/-!
# Proofs/Json/MemberOrder — the order in which members are listed

    value ──arranged──▸ value ──tree──▸ tree of the canonical form

The objects of the canonical form are those of the value (`within_arranged_iff`), with their members
in the order of what is written for the names.  So they are in the order of code units as well
exactly if no object has two names that are misplaced (`member_order_iff`), as no record with plain
names has (`membersInOrder_before_object`).
-/

namespace ProofLogin.Json

/-! ## Members of members -/

/-- **A tree stands in another one**, at any depth. -/
inductive Tree.Within (u : Tree) : Tree → Prop
  | self : Within u u
  | item {items : List Tree} {t : Tree} (ht : t ∈ items) (h : Within u t) : Within u (.array items)
  | member {members : List (Bytes × Tree)} {m : Bytes × Tree} (hm : m ∈ members)
    (h : Within u m.2) : Within u (.object members)

/-- **The members of every object are in order**, each before all that follow it: their names can be
read, and are in that order. -/
def Tree.MembersInOrder (before : String → String → Prop) (t : Tree) : Prop :=
  ∀ members, Within (.object members) t → ∃ names,
    members.mapM (fun m => unescape? m.1) = some names ∧ names.Pairwise before

namespace Value

/-- **No object has two members of one name.** -/
def NamesDistinct (v : Value) : Prop :=
  ∀ members, Within (.object members) v → (members.map Prod.fst).Nodup

theorem Normal.namesDistinct {room : Nat} {v : Value} (h : v.Normal room) : v.NamesDistinct := by
  intro members hwithin
  induction hwithin generalizing room with
  | self =>
    cases h with
    | object hkeys => exact hkeys.nodup
  | item hv _ ih =>
    cases h with
    | array h => exact ih (h _ hv)
  | member hm _ ih =>
    cases h with
    | object _ h => exact ih (h _ hm)

/-- What was read has no object with a name twice. -/
theorem namesDistinct_of_parse? {text : Bytes} {v : Value} (h : parse? text = some v) :
    v.NamesDistinct := by
  obtain ⟨t, -, ht⟩ := Option.bind_eq_some_iff.mp h
  exact (normal_of_ofTree? ht).namesDistinct

/-- **The objects of the tree of an arranged value** are the objects of the value, with their
members in canonical order. -/
theorem within_arranged_iff {v : Value} {ms : List (Bytes × Tree)} :
    Tree.Within (.object ms) v.arranged.tree ↔ ∃ members, Within (.object members) v
      ∧ ms = (Ordered.sort memberBefore members).map fun m => (inner m.1, m.2.arranged.tree) := by
  constructor
  · intro h
    induction v using induction with
    | null | bool | int | float | text => cases h
    | array items ih =>
      rw [tree_arranged_array] at h
      cases h with
      | item ht h =>
        obtain ⟨v, hv, rfl⟩ := List.mem_map.mp ht
        obtain ⟨members, hwithin, hms⟩ := ih v hv h
        exact ⟨members, .item hv hwithin, hms⟩
    | object members ih =>
      rw [tree_arranged_object] at h
      cases h with
      | self => exact ⟨members, .self, rfl⟩
      | member hm h =>
        obtain ⟨m, hmem, rfl⟩ := List.mem_map.mp hm
        have hmem := (Ordered.sort_perm memberBefore members).subset hmem
        obtain ⟨members', hwithin, hms⟩ := ih m hmem h
        exact ⟨members', .member hmem hwithin, hms⟩
  · rintro ⟨members, hwithin, rfl⟩
    induction hwithin with
    | self =>
      rw [tree_arranged_object]
      exact .self
    | item hv _ ih =>
      rw [tree_arranged_array]
      exact .item (List.mem_map_of_mem hv) ih
    | @member members' m hm _ ih =>
      rw [tree_arranged_object]
      have hm := (Ordered.sort_perm memberBefore members').symm.subset hm
      exact .member (List.mem_map_of_mem hm) ih

theorem membersInOrder_arranged_iff {v : Value} {before : String → String → Prop} :
    v.arranged.tree.MembersInOrder before ↔ ∀ members, Within (.object members) v →
      ((Ordered.sort memberBefore members).map Prod.fst).Pairwise before := by
  have hnames (members : List (String × Value)) :
      (members.map fun m => (inner m.1, m.2.arranged.tree)).mapM (fun m => unescape? m.1)
        = some (members.map Prod.fst) :=
    Outcome.mapM_map_some fun m _ => unescape?_inner m.1
  constructor
  · intro h members hwithin
    obtain ⟨names, hread, horder⟩ := h _ (within_arranged_iff.mpr ⟨members, hwithin, rfl⟩)
    rw [hnames] at hread
    cases hread
    exact horder
  · intro h ms hwithin
    obtain ⟨members, hmembers, rfl⟩ := within_arranged_iff.mp hwithin
    exact ⟨_, hnames _, h members hmembers⟩

/-! ## Which order the members are in -/

theorem memberBefore_iff {m m' : String × Value} :
    memberBefore m m' = true ↔ WrittenBefore m.1 m'.1 :=
  Bytes.before_iff

/-- **The members of an object are listed in the order of their written names.** -/
theorem pairwise_writtenBefore {members : List (String × Value)}
    (hn : (members.map Prod.fst).Nodup) :
    ((Ordered.sort memberBefore members).map Prod.fst).Pairwise WrittenBefore := by
  have htotal : members.Pairwise fun m m' => memberBefore m m' = true ∨ memberBefore m' m = true :=
    (List.pairwise_map.mp hn).imp fun hne => by
      rw [memberBefore_iff, memberBefore_iff]
      exact writtenBefore_or hne
  have htrans {m m' m'' : String × Value} (h : memberBefore m m' = true)
      (h' : memberBefore m' m'' = true) : memberBefore m m'' = true := by
    rw [memberBefore_iff] at *
    exact List.lt_trans h h'
  have hsorted : (Ordered.sort memberBefore members).Pairwise
      fun m m' => memberBefore m m' = true := Ordered.pairwise_sort htrans htotal
  exact List.pairwise_map.mpr (hsorted.imp fun h => memberBefore_iff.mp h)

theorem membersInOrder_writtenBefore {v : Value} (hnames : v.NamesDistinct) :
    v.arranged.tree.MembersInOrder WrittenBefore :=
  membersInOrder_arranged_iff.mpr fun members hwithin =>
    pairwise_writtenBefore (hnames members hwithin)

theorem membersInOrder_before_iff {v : Value} (hnames : v.NamesDistinct) :
    v.arranged.tree.MembersInOrder Utf16.Before ↔ ∀ members, Within (.object members) v →
      ∀ m ∈ members, ∀ m' ∈ members, ¬Misplaced m.1.toList m'.1.toList := by
  rw [membersInOrder_arranged_iff]
  refine forall₂_congr fun members hwithin => ?_
  have hperm := Ordered.sort_perm memberBefore members
  have hn : ((Ordered.sort memberBefore members).map Prod.fst).Nodup :=
    (hperm.map Prod.fst).nodup_iff.mpr (hnames members hwithin)
  rw [pairwise_before_iff hn (pairwise_writtenBefore (hnames members hwithin))]
  simp only [List.forall_mem_map, hperm.mem_iff]

@[simp] theorem not_within_text (ms : List (String × Value)) (s : String) :
    ¬Within (.object ms) (.text s) := nofun

@[simp] theorem not_within_int (ms : List (String × Value)) (n : Int) :
    ¬Within (.object ms) (.int n) := nofun

/-- **A record with plain names lists its members in both orders at once.** -/
theorem membersInOrder_before_object {members : List (String × Value)}
    (hnames : (members.map Prod.fst).Nodup) (hplain : ∀ k ∈ members.map Prod.fst, IsPlainName k)
    (hflat : ∀ m ∈ members, ∀ ms, ¬Within (.object ms) m.2) :
    (arranged (.object members)).tree.MembersInOrder Utf16.Before := by
  have honly (ms) (h : Within (.object ms) (.object members)) : ms = members := by
    cases h with
    | self => rfl
    | member hm h => exact absurd h (hflat _ hm ms)
  have hdistinct : NamesDistinct (.object members) := fun ms h => honly ms h ▸ hnames
  refine (membersInOrder_before_iff hdistinct).mpr fun ms h => ?_
  obtain rfl := honly ms h
  exact fun m hm m' hm' =>
    (hplain _ (List.mem_map_of_mem hm)).not_misplaced (hplain _ (List.mem_map_of_mem hm'))

/-- The members that are left out do not matter. -/
theorem membersInOrder_before_objectOf {members : List (String × Option Value)}
    (hnames : (members.map Prod.fst).Nodup) (hplain : ∀ k ∈ members.map Prod.fst, IsPlainName k)
    (hflat : ∀ m ∈ members, ∀ v ∈ m.2, ∀ ms, ¬Within (.object ms) v) :
    (objectOf members).arranged.tree.MembersInOrder Utf16.Before := by
  have hsub := map_fst_filterMap_sublist members
  refine membersInOrder_before_object (hsub.nodup hnames) (fun k hk => hplain k (hsub.subset hk)) ?_
  intro m hm
  obtain ⟨m', hm', hkept⟩ := List.mem_filterMap.mp hm
  obtain ⟨v, hv, rfl⟩ := Option.map_eq_some_iff.mp hkept
  exact hflat m' hm' v hv

/-- **Members are listed in the order of their written names**, and that is the order of code units
unless two names of one object are misplaced.  Every value without binary numbers has a canonical
form; in the tree that it spells, the members of every object, at any depth, have names of which
each comes before all that follow it, where the octets of the quoted and escaped names are compared.
Where the code units of the names are compared, they do so too exactly if no object of the value has
two names of which one ends where the other one goes on with a blank or an exclamation mark, or that
differ first in two characters that are swapped. -/
theorem member_order_iff {v : Value} (hexact : v.IsExact) (hnames : v.NamesDistinct) :
    ∃ bs t, v.canonicalize = .ok bs ∧ Tree.parse? bs = some t
      ∧ t.MembersInOrder WrittenBefore
      ∧ (t.MembersInOrder Utf16.Before ↔ ∀ members, Within (.object members) v →
        ∀ m ∈ members, ∀ m' ∈ members, ¬Misplaced m.1.toList m'.1.toList) :=
  ⟨v.canonicalBytes, v.arranged.tree, canonicalize_eq_ok_iff.mpr ⟨hexact, rfl⟩,
    Tree.parse?_canonicalBytes hexact, membersInOrder_writtenBefore hnames,
    membersInOrder_before_iff hnames⟩

/-- The octets of an array of one object, with the names `b` and `ab`. -/
def lettersText : Bytes :=
  [0x5B, 0x7B, 0x22, 0x62, 0x22, 0x3A, 0x31, 0x2C, 0x22, 0x61, 0x62, 0x22, 0x3A, 0x32, 0x7D, 0x5D]

/-- The octets of an object with two names that are escaped: a tabulator and a new line. -/
def escapesText : Bytes :=
  [0x7B, 0x22, 0x5C, 0x74, 0x22, 0x3A, 0x31, 0x2C, 0x22, 0x5C, 0x6E, 0x22, 0x3A, 0x32, 0x7D]

/-- The letters are in both orders at once; the letter of the new line comes before that of the
tabulator. -/
theorem member_order_iff_sample :
    (∃ v bs t, parse? lettersText = some v ∧ v.canonicalize = .ok bs ∧ Tree.parse? bs = some t
        ∧ t.MembersInOrder Utf16.Before)
      ∧ ∃ v bs t, parse? escapesText = some v ∧ v.canonicalize = .ok bs ∧ Tree.parse? bs = some t
        ∧ t.MembersInOrder WrittenBefore ∧ ¬t.MembersInOrder Utf16.Before := by
  have hletters : parse? lettersText
      = some (.array [.object [("ab", .int 2), ("b", .int 1)]]) := rfl
  have hescapes : parse? escapesText = some (.object [("\t", .int 1), ("\n", .int 2)]) := rfl
  obtain ⟨bs, t, hbs, ht, -, hiff⟩ :=
    member_order_iff (by rfl) (namesDistinct_of_parse? hletters)
  obtain ⟨bs', t', hbs', ht', hwritten, hiff'⟩ :=
    member_order_iff (by rfl) (namesDistinct_of_parse? hescapes)
  refine ⟨⟨_, bs, t, hletters, hbs, ht, hiff.mpr fun members hwithin => ?_⟩,
    ⟨_, bs', t', hescapes, hbs', ht', hwritten, fun hunits => ?_⟩⟩
  · have honly : members = [("ab", .int 2), ("b", .int 1)] := by
      obtain _ | ⟨hv, hwithin⟩ := hwithin
      obtain rfl := List.mem_singleton.mp hv
      cases hwithin with
      | self => rfl
      | member hm h =>
        rw [List.mem_cons, List.mem_singleton] at hm
        obtain rfl | rfl := hm <;> cases h
    subst honly
    decide +kernel
  · have hmisplaced : Misplaced ['\t'] ['\n'] := by decide +kernel
    exact hiff'.mp hunits _ .self _ List.mem_cons_self _
      (List.mem_cons_of_mem _ List.mem_cons_self) hmisplaced

/-- The octets of an object with the name `a`, and with the same one and an exclamation mark. -/
def markText : Bytes :=
  [0x7B, 0x22, 0x61, 0x22, 0x3A, 0x31, 0x2C, 0x22, 0x61, 0x21, 0x22, 0x3A, 0x32, 0x7D]

/-- **A name is listed after the longer one that goes on with an exclamation mark**, though it comes
first in code units. -/
theorem longer_name_listed_first :
    ∃ v bs t, parse? markText = some v ∧ v.IsExact ∧ v.canonicalize = .ok bs
      ∧ bs = [0x7B, 0x22, 0x61, 0x21, 0x22, 0x3A, 0x32, 0x2C, 0x22, 0x61, 0x22, 0x3A, 0x31, 0x7D]
      ∧ Tree.parse? bs = some t ∧ ¬t.MembersInOrder Utf16.Before := by
  refine ⟨.object [("a", .int 1), ("a!", .int 2)], _, .object [([0x61, 0x21], .number (.integer 2)),
    ([0x61], .number (.integer 1))], rfl, rfl, rfl, rfl, rfl, fun hunits => ?_⟩
  obtain ⟨names, hread, horder⟩ := hunits _ .self
  obtain rfl : ["a!", "a"] = names := Option.some.inj hread
  have hfirst : ¬Utf16.Before "a!" "a" := by decide
  exact hfirst (List.rel_of_pairwise_cons horder List.mem_cons_self)

end Value

end ProofLogin.Json
