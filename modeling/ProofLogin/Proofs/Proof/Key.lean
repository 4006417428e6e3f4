import Mathlib.Tactic.MkIffOfInductiveProp
import ProofLogin.Proof.Key
import ProofLogin.Proofs.Outcome

/-!
# Proofs/Proof/Key — the octets of a key

    mark (8)   circuit (1)   digest of the statement (32)   seed (32)

A key is read from its octets and from no others (`ofBytes_eq_ok_iff`), and of the octet strings
that are read no more is looked at than their length, the mark and the octet of the circuit
(`exists_ofBytes_iff`): whatever stands in the other places is digest and seed.  The marks tell the
roles apart, so that no octet string is a key of both (`role_eq_of_ofBytes`).
-/

namespace ProofLogin

namespace KeyMaterial

variable {role role' : KeyRole} {bs : Bytes} {k k' : KeyMaterial}

/-! ## The parts -/

@[simp] theorem length_mark (role : KeyRole) : role.mark.length = 8 := by
  cases role <;> rfl

theorem mark_injective : Function.Injective KeyRole.mark
  | .proving, .proving, _ => rfl
  | .verifying, .verifying, _ => rfl
  | .proving, .verifying, h => absurd h (by decide)
  | .verifying, .proving, h => absurd h (by decide)

theorem circuitOfTag?_eq_some_iff {tag : UInt8} {circuit : Circuit} :
    circuitOfTag? tag = some circuit ↔ tag = circuitTag circuit := by
  rw [circuitOfTag?]
  split
  case isTrue hauth =>
    rw [hauth]
    cases circuit <;> decide
  case isFalse hauth =>
    split
    case isTrue hage =>
      rw [hage]
      cases circuit <;> decide
    case isFalse hage =>
      refine iff_of_false nofun fun htag => ?_
      cases circuit
      · exact hauth htag
      · exact hage htag

theorem exists_circuitTag_iff {tag : UInt8} :
    (∃ circuit, tag = circuitTag circuit) ↔ tag = 1 ∨ tag = 2 := by
  constructor
  · rintro ⟨circuit, rfl⟩
    cases circuit
    · exact .inl rfl
    · exact .inr rfl
  · rintro (rfl | rfl)
    · exact ⟨.auth, rfl⟩
    · exact ⟨.age, rfl⟩

@[simp] theorem length_toBytes (role : KeyRole) (k : KeyMaterial) :
    (k.toBytes role).length = width := by
  simp [toBytes, k.digest.length_toBytes, k.seed.length_toBytes, width]

theorem circuitTag_injective : Function.Injective circuitTag := fun _ _ h =>
  Option.some.inj <| (circuitOfTag?_eq_some_iff.mpr rfl).symm.trans
    (circuitOfTag?_eq_some_iff.mpr h)

/-- **No two keys of a role have the same octets.** -/
theorem toBytes_injective (role : KeyRole) : Function.Injective (toBytes role) := by
  intro k k' h
  obtain ⟨htag, hrest⟩ := List.cons.inj (List.append_cancel_left h)
  obtain ⟨hdigest, hseed⟩ := List.append_inj hrest
    (k.digest.length_toBytes.trans k'.digest.length_toBytes.symm)
  cases k
  cases k'
  congr
  · exact circuitTag_injective htag
  · exact Bytes32.ext hdigest
  · exact Bytes32.ext hseed

/-- There is a ninth octet in an octet string of the length of a key. -/
theorem getElem?_tag (h : bs.length = width) : bs[8]? = some (bs.getD 8 0) := by
  have hlt : 8 < bs.length := by
    rw [h]
    decide
  rw [List.getD_eq_getElem?_getD, List.getElem?_eq_getElem hlt, Option.getD_some]

/-- An octet string of the length of a key in its parts. -/
theorem append_parts (h : bs.length = width) :
    bs.take 8 ++ bs.getD 8 0 :: ((bs.drop 9).take 32 ++ bs.drop 41) = bs := by
  obtain ⟨hlt, htag⟩ := List.getElem?_eq_some_iff.mp (getElem?_tag h)
  have hseed : bs.drop 41 = (bs.drop 9).drop 32 := by rw [List.drop_drop]
  rw [hseed, List.take_append_drop, ← htag, ← List.drop_eq_getElem_cons hlt, List.take_append_drop]

/-! ## Reading -/

/-- **What the parts of a key that is read say.** -/
theorem parts_of_ofBytes (h : ofBytes role bs = .ok k) :
    bs.length = width ∧ bs.take 8 = role.mark ∧ bs.getD 8 0 = circuitTag k.circuit
      ∧ (bs.drop 9).take 32 = k.digest.toBytes ∧ bs.drop 41 = k.seed.toBytes := by
  rw [ofBytes] at h
  split at h
  case isFalse => cases h
  case isTrue hlength =>
    obtain ⟨hmark, h⟩ := Outcome.ite_ok_eq_ok.mp h
    simp only at h
    split at h
    case h_1 => cases h
    case h_2 circuit hcircuit =>
      cases h
      exact ⟨hlength, hmark, circuitOfTag?_eq_some_iff.mp hcircuit, rfl, rfl⟩

/-- **Who writes a key that is read writes what has been read.** -/
theorem toBytes_of_ofBytes (h : ofBytes role bs = .ok k) : k.toBytes role = bs := by
  obtain ⟨hlength, hmark, htag, hdigest, hseed⟩ := parts_of_ofBytes h
  rw [toBytes, ← hmark, ← htag, ← hdigest, ← hseed, append_parts hlength]

/-- **The octets that are a key** of a role: 73 of them, of which the first are the mark and the
ninth is the one of a circuit. -/
@[mk_iff] structure IsKey (role : KeyRole) (bs : Bytes) : Prop where
  length_eq : bs.length = 73
  mark_begins : role.mark <+: bs
  tag_eq : bs[8]? = some 1 ∨ bs[8]? = some 2

instance (role : KeyRole) (bs : Bytes) : Decidable (IsKey role bs) :=
  decidable_of_iff' _ (isKey_iff role bs)

theorem IsKey.take_eq (h : IsKey role bs) : bs.take 8 = role.mark := by
  rw [← length_mark role]
  exact (List.prefix_iff_eq_take.mp h.mark_begins).symm

/-- **The octet strings that are read.** -/
theorem exists_ofBytes_iff : (∃ k, ofBytes role bs = .ok k) ↔ IsKey role bs := by
  constructor
  · rintro ⟨k, h⟩
    obtain ⟨hlength, hmark, hcircuit, -, -⟩ := parts_of_ofBytes h
    refine ⟨hlength, hmark ▸ List.take_prefix 8 bs, ?_⟩
    rw [getElem?_tag hlength, Option.some.injEq, Option.some.injEq]
    exact exists_circuitTag_iff.mp ⟨_, hcircuit⟩
  · intro h
    have hcircuit := h.tag_eq
    rw [getElem?_tag h.length_eq, Option.some.injEq, Option.some.injEq] at hcircuit
    obtain ⟨circuit, hcircuit⟩ := exists_circuitTag_iff.mpr hcircuit
    have hlength : bs.length = width := h.length_eq
    rw [ofBytes, dif_pos hlength, if_pos h.take_eq]
    simp only [circuitOfTag?_eq_some_iff.mpr hcircuit]
    exact ⟨_, rfl⟩

theorem isKey_toBytes (role : KeyRole) (k : KeyMaterial) : IsKey role (k.toBytes role) where
  length_eq := length_toBytes role k
  mark_begins := List.prefix_append _ _
  tag_eq := by
    have htag : (k.toBytes role)[8]? = some (circuitTag k.circuit) := by
      rw [toBytes, List.getElem?_append_right (by simp), length_mark]
      rfl
    rw [htag, Option.some.injEq, Option.some.injEq]
    exact exists_circuitTag_iff.mp ⟨_, rfl⟩

/-- **A key is read from its octets, and from no others.** -/
theorem ofBytes_eq_ok_iff : ofBytes role bs = .ok k ↔ k.toBytes role = bs := by
  refine ⟨toBytes_of_ofBytes, ?_⟩
  rintro rfl
  obtain ⟨k', h⟩ := exists_ofBytes_iff.mpr (isKey_toBytes role k)
  rwa [toBytes_injective role (toBytes_of_ofBytes h)] at h

/-- **No octet string is a key of both roles.** -/
theorem role_eq_of_ofBytes (h : ofBytes role bs = .ok k) (h' : ofBytes role' bs = .ok k') :
    role = role' := by
  obtain ⟨-, hmark, -⟩ := parts_of_ofBytes h
  obtain ⟨-, hmark', -⟩ := parts_of_ofBytes h'
  exact mark_injective (hmark.symm.trans hmark')

end KeyMaterial

theorem ProvingKey.ofBytes_eq_ok_iff {bs : Bytes} {k : ProvingKey} :
    ofBytes bs = .ok k ↔ KeyMaterial.ofBytes .proving bs = .ok k.material := by
  rw [ofBytes, Outcome.map_eq_ok]
  exact ⟨fun ⟨_, h, hk⟩ => hk ▸ h, fun h => ⟨_, h, rfl⟩⟩

theorem ProvingKey.exists_ofBytes_iff {bs : Bytes} :
    (∃ k, ofBytes bs = .ok k) ↔ KeyMaterial.IsKey .proving bs := by
  rw [← KeyMaterial.exists_ofBytes_iff]
  exact ⟨fun ⟨k, hk⟩ => ⟨k.material, ofBytes_eq_ok_iff.mp hk⟩,
    fun ⟨k, hk⟩ => ⟨⟨k⟩, ofBytes_eq_ok_iff.mpr hk⟩⟩

theorem VerifyingKey.ofBytes_eq_ok_iff {bs : Bytes} {k : VerifyingKey} :
    ofBytes bs = .ok k ↔ KeyMaterial.ofBytes .verifying bs = .ok k.material := by
  rw [ofBytes, Outcome.map_eq_ok]
  exact ⟨fun ⟨_, h, hk⟩ => hk ▸ h, fun h => ⟨_, h, rfl⟩⟩

theorem VerifyingKey.exists_ofBytes_iff {bs : Bytes} :
    (∃ k, ofBytes bs = .ok k) ↔ KeyMaterial.IsKey .verifying bs := by
  rw [← KeyMaterial.exists_ofBytes_iff]
  exact ⟨fun ⟨k, hk⟩ => ⟨k.material, ofBytes_eq_ok_iff.mp hk⟩,
    fun ⟨k, hk⟩ => ⟨⟨k⟩, ofBytes_eq_ok_iff.mpr hk⟩⟩

end ProofLogin
