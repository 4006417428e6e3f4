import Mathlib.Tactic.MkIffOfInductiveProp
import ProofLogin.Commitment.Salt
import ProofLogin.Proofs.Encoding.Hex

/-!
# Proofs/Commitment/Salt — which texts spell a salt

A salt is spelled by its digits, in either case, with any blanks around them
(`Salt.exists_ofHex_iff`), and by nothing else (`Salt.ofHex_eq_ok_iff_toHex`).  Whatever is wrong
with a text, the error is the one for salts.
-/

namespace ProofLogin.Salt

variable {text : String} {salt : Salt}

/-- **The texts that spell a salt**: without the blanks around it, such a text is an even number of
hexadecimal digits, 16 of them at least. -/
@[mk_iff] structure IsSpelling (text : String) : Prop where
  isDigit : ∀ c ∈ (Text.trim text).toList, Hex.IsDigit c
  even : (Text.trim text).length % 2 = 0
  le_length : 16 ≤ (Text.trim text).length

/-- The characters of the text are looked at, not those of the type. -/
instance (text : String) : Decidable (IsSpelling text) :=
  have : Decidable (∀ c ∈ (Text.trim text).toList, Hex.IsDigit c) := List.decidableBAll _ _
  decidable_of_iff' _ (isSpelling_iff text)

/-- A text spells the octets of its digits, if they are enough. -/
theorem ofHex_eq_ok_iff :
    ofHex text = .ok salt ↔ Hex.decode (Text.trim text) = .ok salt.octets := by
  rw [ofHex]
  split
  case h_1 fault hfault => simp [hfault]
  case h_2 bs hbs =>
    rw [hbs, Except.ok.injEq]
    split
    case isTrue h =>
      rw [Except.ok.injEq]
      exact ⟨fun heq => heq ▸ rfl, fun heq => Salt.ext heq⟩
    case isFalse h =>
      refine iff_of_false (fun heq => by cases heq) fun heq => h ?_
      rw [heq]
      exact salt.le_length

/-- An octet takes two digits, so that a salt is no longer than its text. -/
theorem length_octets_lt {n : Nat} (h : ofHex text = .ok salt)
    (hlt : (Text.trim text).length < n) : salt.octets.length < n := by
  have hlength := Hex.length_of_decode (ofHex_eq_ok_iff.mp h)
  omega

/-- **The salts that there are texts for.** -/
theorem exists_ofHex_iff : (∃ salt, ofHex text = .ok salt) ↔ IsSpelling text := by
  simp only [ofHex_eq_ok_iff]
  constructor
  · rintro ⟨salt, hdecode⟩
    obtain ⟨hdigits, heven⟩ := Hex.exists_decode_iff.mp ⟨_, hdecode⟩
    have hlength := Hex.length_of_decode hdecode
    have hleast := salt.le_length
    exact ⟨hdigits, heven, by omega⟩
  · intro h
    obtain ⟨bs, hdecode⟩ := Hex.exists_decode_iff.mpr ⟨h.isDigit, h.even⟩
    have hlength := Hex.length_of_decode hdecode
    have hleast := h.le_length
    exact ⟨⟨bs, by omega⟩, hdecode⟩

example : IsSpelling " 000102030405ABcd\n" := by decide

/-- **The spellings of a salt** are its text, but for the blanks around it and the case of its
digits. -/
theorem ofHex_eq_ok_iff_toHex :
    ofHex text = .ok salt ↔ IsSpelling text ∧ (Text.trim text).toLower = salt.toHex := by
  constructor
  · intro h
    exact ⟨exists_ofHex_iff.mp ⟨salt, h⟩, (Hex.decode_eq_ok_iff.mp (ofHex_eq_ok_iff.mp h)).2⟩
  · rintro ⟨hspelling, hlower⟩
    exact ofHex_eq_ok_iff.mpr (Hex.decode_eq_ok_iff.mpr ⟨hspelling.isDigit, hlower⟩)

/-- **A text that spells no salt is refused as one.** -/
theorem exists_saltDecode_of_ofHex {err : CommitmentError} (h : ofHex text = .error err) :
    ∃ reason, err = .saltDecode reason := by
  rw [ofHex] at h
  split at h
  case h_1 => exact ⟨_, (Except.error.inj h).symm⟩
  case h_2 =>
    split at h
    case isTrue => cases h
    case isFalse => exact ⟨_, (Except.error.inj h).symm⟩

end ProofLogin.Salt
