import Mathlib.Tactic.MkIffOfInductiveProp
import ProofLogin.Commitment.Salt
import ProofLogin.Fingerprint
import ProofLogin.Proofs.Encoding.Hex
import ProofLogin.Proofs.Json.Record

/-!
# Proofs/Fingerprint — names of keys and salts are read back from their digits

A name is spelled by 64 digits, in either case, with any blanks around them
(`Fingerprint.exists_ofHex_iff`), and by nothing else (`Fingerprint.ofHex_eq_ok_iff_toHex`).
-/

namespace ProofLogin

namespace Fingerprint

variable {text : String} {f : Fingerprint}

/-- A text names the digest that its digits spell.  That it has to have 64 octets says nothing new:
as many digits spell a digest. -/
theorem ofHex_eq_ok_iff :
    ofHex text = .ok f ↔ Hex.decode (Text.trim text) = .ok f.digest.toBytes := by
  simp only [ofHex, Outcome.ite_ok_eq_ok, Hex.decode]
  constructor
  · rintro ⟨-, h⟩
    split at h
    case h_1 => cases h
    case h_2 bs hbs =>
      split at h
      case h_1 d hd =>
        obtain rfl := Except.ok.inj h
        rw [hbs, Bytes32.ofBytes?_eq_some.mp hd]
      case h_2 => cases h
  · intro h
    have hlength := Hex.length_of_pairs (Hex.decodeBytes_eq_ok_iff.mp h)
    rw [f.digest.length_toBytes] at hlength
    refine ⟨hlength, ?_⟩
    simp only [h, Bytes32.ofBytes?_toBytes]

/-- **A name is read back from its text.** -/
@[simp] theorem ofHex_toHex (f : Fingerprint) : ofHex f.toHex = .ok f := by
  rw [ofHex_eq_ok_iff, toHex, Hex.trim_encode, Hex.decode_encode]

theorem toHex_injective : Function.Injective toHex := fun f g h =>
  Except.ok.inj (by rw [← ofHex_toHex, h, ofHex_toHex])

/-- **The texts that spell a name**: without the blanks around it, such a text is 64 hexadecimal
digits. -/
@[mk_iff] structure IsSpelling (text : String) : Prop where
  isDigit : ∀ c ∈ (Text.trim text).toList, Hex.IsDigit c
  length_eq : (Text.trim text).length = 64

/-- The characters of the text are looked at, not those of the type. -/
instance (text : String) : Decidable (IsSpelling text) :=
  have : Decidable (∀ c ∈ (Text.trim text).toList, Hex.IsDigit c) := List.decidableBAll _ _
  decidable_of_iff' _ (isSpelling_iff text)

/-- **The names that there are texts for.** -/
theorem exists_ofHex_iff : (∃ f, ofHex text = .ok f) ↔ IsSpelling text := by
  simp only [ofHex_eq_ok_iff]
  constructor
  · rintro ⟨f, hdecode⟩
    have hlength := Hex.length_of_decode hdecode
    rw [f.digest.length_toBytes] at hlength
    exact ⟨(Hex.exists_decode_iff.mp ⟨_, hdecode⟩).1, hlength⟩
  · intro h
    obtain ⟨bs, hdecode⟩ := Hex.exists_decode_iff.mpr ⟨h.isDigit, by rw [h.length_eq]⟩
    have hlength := Hex.length_of_decode hdecode
    rw [h.length_eq] at hlength
    exact ⟨⟨⟨bs, by omega⟩⟩, hdecode⟩

/-- **The spellings of a name** are its text, but for the blanks around it and the case of its
digits. -/
theorem ofHex_eq_ok_iff_toHex :
    ofHex text = .ok f ↔ IsSpelling text ∧ (Text.trim text).toLower = f.toHex := by
  constructor
  · intro h
    exact ⟨exists_ofHex_iff.mp ⟨f, h⟩, (Hex.decode_eq_ok_iff.mp (ofHex_eq_ok_iff.mp h)).2⟩
  · rintro ⟨hspelling, hlower⟩
    exact ofHex_eq_ok_iff.mpr (Hex.decode_eq_ok_iff.mpr ⟨hspelling.isDigit, hlower⟩)

/-- The empty text names no key. -/
theorem ofHex_ne_ok_of_empty (f : Fingerprint) : ofHex "" ≠ .ok f := by
  intro h
  have hlength : (Utf8.encode (Text.trim "")).length ≠ 64 := by decide
  rw [ofHex, if_neg hlength] at h
  cases h

theorem toHex_ne_empty (f : Fingerprint) : f.toHex ≠ "" := fun h =>
  ofHex_ne_ok_of_empty f (h ▸ ofHex_toHex f)

@[simp] theorem ofJson?_tree (f : Fingerprint) : ofJson? f.toJson.tree = some f := by
  rw [ofJson?, toJson, Json.Tree.text?_tree, Option.bind_eq_bind, Option.bind_some, ofHex_toHex]
  rfl

end Fingerprint

/-- **A salt is read back from its text.** -/
@[simp] theorem Salt.ofHex_toHex (s : Salt) : Salt.ofHex s.toHex = .ok s := by
  rw [Salt.ofHex, Salt.toHex, Hex.trim_encode, Hex.decode_encode]
  exact dif_pos s.le_length

theorem Salt.toHex_injective : Function.Injective Salt.toHex := fun s t h =>
  Except.ok.inj (by rw [← Salt.ofHex_toHex, h, Salt.ofHex_toHex])

@[simp] theorem Salt.ofJson?_tree (s : Salt) : Salt.ofJson? s.toJson.tree = some s := by
  rw [Salt.ofJson?, Salt.toJson, Json.Tree.text?_tree, Option.bind_eq_bind, Option.bind_some,
    ofHex_toHex]
  rfl

/-- No version of a policy is empty. -/
theorem Hex.encode_bytes32_ne_empty (d : Bytes32) : Hex.encode d.toBytes ≠ "" := by
  refine Hex.encode_ne_empty fun h => ?_
  have := d.length_toBytes
  rw [h] at this
  cases this

end ProofLogin
