import Mathlib.Logic.Basic
import ProofLogin.Proofs.Outcome
import ProofLogin.Proofs.Token.Codec

/-!
# Proofs/Token/Validity — which tokens are accepted

`Token.Signs`: a token carries claims under the key of a set that it names.  Parsing finds exactly
these (`parseWith_eq_ok_iff`), and of them those hold that have not ended and agree with what is
expected (`Claims.Holds`, `validateWith_eq_ok_iff`).
-/

namespace ProofLogin

/-- **The token carries the claims**, signed by the key that its payload names in the set, or by the
default key if it names none. -/
def Token.Signs (keys : KeySet) (token : String) (c : Claims) : Prop :=
  ∃ payload tag kid key, Token.split token = .ok (payload, tag)
    ∧ Claims.keyHint? payload = some kid ∧ keys.select kid = .ok key
    ∧ tag = key.sign payload ∧ Claims.ofPayload? payload = some c

/-- **The claims hold now** under the key and the policy that are expected. -/
structure Claims.Holds (c : Claims) (now : Int64) (vkId paramsVersion : String) : Prop where
  now_lt : now < c.expiresAt
  vkId_eq : vkId = "" ∨ c.vkId = vkId
  paramsVersion_eq : paramsVersion = "" ∨ c.paramsVersion = paramsVersion
  version_eq : c.version = "" ∨ c.version = Claims.currentVersion

namespace Token

variable {keys : KeySet} {token : String} {c : Claims} {now : Int64} {vkId paramsVersion : String}

theorem select_of_isEmpty (h : keys.isEmpty = true) (kid : Option String) :
    keys.select kid = .error .keyMissing := by
  rw [KeySet.select.eq_def, if_pos h]

theorem checkSignature_eq_ok_iff {key : TokenKey} {payload tag : Bytes} :
    checkSignature key payload tag = .ok () ↔ tag = key.sign payload := by
  rw [checkSignature, Outcome.ite_ok_eq_ok, and_iff_left rfl]

theorem decodeClaims_eq_ok_iff {payload : Bytes} :
    decodeClaims payload = .ok c ↔ Claims.ofPayload? payload = some c := by
  rw [decodeClaims]
  cases Claims.ofPayload? payload <;> simp

/-- **Parsing finds what has been signed.** -/
theorem parseWith_eq_ok_iff : parseWith token keys = .ok c ↔ Signs keys token c := by
  rw [parseWith, Outcome.ite_error_eq_ok]
  constructor
  · rintro ⟨-, h⟩
    obtain ⟨⟨payload, tag⟩, hsplit, h⟩ := Outcome.bind_eq_ok.mp h
    simp only at h
    split at h
    case h_1 => cases h
    case h_2 kid hkid =>
      obtain ⟨key, hkey, h⟩ := Outcome.bind_eq_ok.mp h
      obtain ⟨⟨⟩, hsign, h⟩ := Outcome.bind_eq_ok.mp h
      exact ⟨payload, tag, kid, key, hsplit, hkid, hkey, checkSignature_eq_ok_iff.mp hsign,
        decodeClaims_eq_ok_iff.mp h⟩
  · rintro ⟨payload, tag, kid, key, hsplit, hkid, hkey, htag, hc⟩
    have hempty : ¬keys.isEmpty = true := fun h => by
      rw [select_of_isEmpty h] at hkey
      cases hkey
    refine ⟨hempty, Outcome.bind_eq_ok.mpr ⟨_, hsplit, ?_⟩⟩
    simp only [hkid]
    exact Outcome.bind_eq_ok.mpr ⟨key, hkey, Outcome.bind_eq_ok.mpr
      ⟨(), checkSignature_eq_ok_iff.mpr htag, decodeClaims_eq_ok_iff.mpr hc⟩⟩

/-- A token carries one claims. -/
theorem Signs.unique {c' : Claims} (h : Signs keys token c) (h' : Signs keys token c') : c = c' :=
  Except.ok.inj ((parseWith_eq_ok_iff.mpr h).symm.trans (parseWith_eq_ok_iff.mpr h'))

/-- A token carries its claims for every set that selects the key it was signed with. -/
theorem signs_ofPayload {key : TokenKey} (h : keys.select c.keyId = .ok key) :
    Signs keys (ofPayload key c.payload) c :=
  ⟨c.payload, key.sign c.payload, c.keyId, key, split_ofPayload key _, Claims.keyHint?_payload c,
    h, rfl, Claims.ofPayload?_payload c⟩

theorem checkClaims_eq_ok_iff {c' : Claims} :
    checkClaims c now vkId paramsVersion = .ok c' ↔ c.Holds now vkId paramsVersion ∧ c = c' := by
  simp only [checkClaims, Outcome.ite_error_eq_ok, not_and_or, not_not, ne_eq, Int64.not_le,
    Except.ok.injEq]
  constructor
  · rintro ⟨hend, hvk, hparams, hversion, rfl⟩
    exact ⟨⟨hend, hvk, hparams, hversion⟩, rfl⟩
  · rintro ⟨⟨hend, hvk, hparams, hversion⟩, rfl⟩
    exact ⟨hend, hvk, hparams, hversion, rfl⟩

/-- **A token is accepted exactly when it carries claims that hold now.** -/
theorem validateWith_eq_ok_iff : validateWith token keys now vkId paramsVersion = .ok c ↔
    Signs keys token c ∧ c.Holds now vkId paramsVersion := by
  rw [validateWith, Outcome.bind_eq_ok]
  constructor
  · rintro ⟨c', hc', h⟩
    obtain ⟨hholds, rfl⟩ := checkClaims_eq_ok_iff.mp h
    exact ⟨parseWith_eq_ok_iff.mp hc', hholds⟩
  · rintro ⟨hc, hholds⟩
    exact ⟨c, parseWith_eq_ok_iff.mpr hc, checkClaims_eq_ok_iff.mpr ⟨hholds, rfl⟩⟩

end Token

end ProofLogin
