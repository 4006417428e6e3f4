import Mathlib.Logic.Function.Basic
import ProofLogin.Proof.Circuit
import ProofLogin.Proofs.Commitment.Field
import ProofLogin.Proofs.Json.MemberOrder

/-!
# Proofs/Proof/Circuit — public inputs are what their canonical octets say

    inputs ──toJson──▸ value ──canonicalBytes──▸ octets ──parse?──▸ tree ──record?──▸ members

The tree of the octets names the circuit (`record?_circuit`), and the members that inputs of this
circuit have spell the inputs (`ofMembers?_record?`).  So no two public inputs have the same octets
(`canonicalBytes_injective`), of whichever circuits they are; and their members are in the order of
octets and in that of code units at once (`membersInOrder_canonicalBytes`).

The object that is written names the circuit first.  Reading takes the name out and the inputs from
the rest (`ofJson?_tree`).
-/

namespace ProofLogin

open Json (Tree Value)

/-! ## Public inputs -/

theorem Circuit.name_injective : Function.Injective Circuit.name := by
  intro a b h
  cases a with
  | auth => cases b with
    | auth => rfl
    | age => exact absurd h (by decide)
  | age => cases b with
    | auth => exact absurd h (by decide)
    | age => rfl

theorem Circuit.lookup_names (c : Circuit) : names.lookup c.name = some c := by
  cases c <;> rfl

namespace PublicInputs

theorem isExact_toJson (p : PublicInputs) : p.toJson.IsExact := by
  cases p <;> rfl

/-- What public inputs have beside the name of their circuit, as it is written. -/
def values : PublicInputs → List Value
  | .auth p => [p.commitment.toJson, p.binding.toJson, p.salt.toJson, .ofInt32 p.targetYear,
      .ofInt32 p.limitAge, .ofUInt64 p.challenge]
  | .age p => [.ofInt32 p.targetYear, .ofInt32 p.limitAge]

theorem toJson_eq (p : PublicInputs) : p.toJson = .object
    (("circuit", .text p.circuit.name) :: (memberNames p.circuit).zip p.values) := by
  cases p <;> rfl

theorem nodup_memberNames (k : Circuit) : ("circuit" :: memberNames k).Nodup := by
  cases k <;> decide

theorem nodup_names (p : PublicInputs) : ((("circuit", Value.text p.circuit.name)
    :: (memberNames p.circuit).zip p.values).map Prod.fst).Nodup := by
  cases p with
  | auth => exact nodup_memberNames .auth
  | age => exact nodup_memberNames .age

/-- **The octets name the circuit.** -/
theorem record?_circuit (p : PublicInputs) : p.toJson.arranged.tree.record? ["circuit"]
    = some [some (Value.text p.circuit.name).tree] := by
  rw [toJson_eq, Tree.record?_arranged (by decide) p.nodup_names]
  rfl

/-- **The octets spell the inputs**, member by member. -/
theorem ofMembers?_record? (p : PublicInputs) :
    (p.toJson.arranged.tree.record? (memberNames p.circuit)).bind (ofMembers? p.circuit)
      = some p := by
  rw [toJson_eq, Tree.record?_arranged (nodup_memberNames p.circuit).of_cons p.nodup_names]
  cases p with
  | auth | age => simp [memberNames, circuit, values, List.lookup_cons, ofMembers?]

/-- **No two public inputs have the same canonical octets.** -/
theorem canonicalBytes_injective : Function.Injective canonicalBytes := by
  intro p q h
  have htree : p.toJson.arranged.tree = q.toJson.arranged.tree := by
    have hparse := congrArg Tree.parse? h
    rw [canonicalBytes, canonicalBytes, Tree.parse?_canonicalBytes p.isExact_toJson,
      Tree.parse?_canonicalBytes q.isExact_toJson] at hparse
    exact Option.some.inj hparse
  have hcircuit : p.circuit = q.circuit := by
    have hname := p.record?_circuit
    rw [htree, q.record?_circuit, Option.some.injEq, List.cons.injEq, Option.some.injEq] at hname
    have htext := congrArg Tree.text? hname.1
    rw [Tree.text?_tree, Tree.text?_tree] at htext
    exact (Circuit.name_injective (Option.some.inj htext)).symm
  have hmembers := p.ofMembers?_record?
  rw [htree, hcircuit, q.ofMembers?_record?] at hmembers
  exact (Option.some.inj hmembers).symm

/-- **The members of the octets are in the order of code units** as well. -/
theorem membersInOrder_canonicalBytes (p : PublicInputs) :
    ∃ t, Tree.parse? p.canonicalBytes = some t ∧ t.MembersInOrder Utf16.Before := by
  have hplain (k : Circuit) : ∀ name ∈ "circuit" :: memberNames k, Json.IsPlainName name := by
    cases k <;> decide +kernel
  refine ⟨_, Tree.parse?_canonicalBytes p.isExact_toJson, ?_⟩
  cases p with
  | auth =>
    refine Value.membersInOrder_before_object (nodup_memberNames .auth) (hplain .auth) ?_
    simp [FieldElement.toJson, Value.ofInt32, Value.ofUInt64]
  | age =>
    refine Value.membersInOrder_before_object (nodup_memberNames .age) (hplain .age) ?_
    simp [Value.ofInt32]

/-! ## Public inputs in JSON -/

theorem exists_ofTree? (p : PublicInputs) :
    ∃ v, Value.ofTree? Value.deepest p.toJson.tree = some v := by
  cases p with
  | auth p =>
    refine Value.exists_ofTree?_object ?_
    simp [FieldElement.toJson, Value.ofTree?_text, Value.ofTree?_ofInt32, Value.ofTree?_ofUInt64]
  | age p =>
    refine Value.exists_ofTree?_object ?_
    simp [Value.ofTree?_text, Value.ofTree?_ofInt32]

/-- A tag that comes first is split off, if it is not repeated. -/
theorem splitTag?_cons {ms : List (String × Value)} (hms : "circuit" ∉ ms.map Prod.fst) (t : Tree) :
    splitTag? ((Json.inner "circuit", t) :: ms.map fun m => (Json.inner m.1, m.2.tree))
      = some (t, ms.map fun m => (Json.inner m.1, m.2.tree)) := by
  have hkeys : (ms.map fun m => (Json.inner m.1, m.2.tree)).mapM (fun m => Json.unescape? m.1)
      = some (ms.map Prod.fst) :=
    Outcome.mapM_map_some fun m _ => Json.unescape?_inner m.1
  rw [splitTag?, Json.unescape?_inner, Option.bind_eq_bind, Option.bind_some, if_pos rfl, hkeys,
    Option.bind_eq_bind, Option.bind_some, if_neg]
  rwa [List.contains_iff_mem]

/-- **Public inputs are read back from their object**, the circuit first. -/
@[simp] theorem ofJson?_tree (p : PublicInputs) : ofJson? p.toJson.tree = some p := by
  obtain ⟨v, hv⟩ := p.exists_ofTree?
  have hnames : ((memberNames p.circuit).zip p.values).map Prod.fst = memberNames p.circuit := by
    cases p <;> rfl
  have hnodup := List.nodup_cons.mp (nodup_memberNames p.circuit)
  have hrecord := Tree.record?_object hnodup.2 hnames
  rw [Value.tree, Value.memberTrees_eq_map] at hrecord
  rw [ofJson?, hv, toJson_eq, Value.tree, Value.memberTrees_eq_map, List.map_cons]
  simp only [Option.bind_eq_bind, Option.bind_some]
  rw [splitTag?_cons (hnames.symm ▸ hnodup.1)]
  simp only [Option.map_some, Option.bind_some, Tree.text?_tree, Circuit.lookup_names, hrecord]
  cases p with
  | auth | age => simp [memberNames, circuit, values, ofMembers?]

end PublicInputs

end ProofLogin
