import Mathlib.Algebra.Group.Nat.Defs
import ProofLogin.Proofs.Token.Uniqueness

/-!
# Proofs/Token/RoundTrip — a token says what it was issued for

    claims ──complete──▸ claims with nothing empty ──payload──▸ octets ──ofPayload──▸ token

`issue_eq_ok_iff` says which claims have a token, and which one.  Under the key that signed it,
every token is read as the completed claims, whatever characters are in its texts; these hold until
they end, for the key and the policy that they name (`issue_parse_validate`).
-/

namespace ProofLogin.Token

variable {c : Claims} {key : TokenKey} {now : Int64} {vkId paramsVersion : String}

/-- The challenges that can be issued are the integers that every JSON reader keeps exact. -/
theorem challenge_bounds_iff {challenge : UInt64} :
    challenge ≠ 0 ∧ challenge.toNat ≤ Draw.greatestChallenge ↔
      1 ≤ challenge.toNat ∧ challenge.toNat ≤ 2 ^ 53 - 1 := by
  have hgreatest : Draw.greatestChallenge = 2 ^ 53 - 1 := by decide
  have hzero : challenge ≠ 0 ↔ 1 ≤ challenge.toNat := by
    rw [ne_eq, ← UInt64.toNat_inj, Nat.one_le_iff_ne_zero]
    rfl
  rw [hgreatest, hzero]

/-- **What was signed is read.** -/
@[simp] theorem parse_ofPayload (key : TokenKey) (c : Claims) :
    parse (ofPayload key c.payload) key = .ok c :=
  parse_eq_ok_iff.mpr ⟨c.payload, rfl, Claims.ofPayload?_payload c⟩

/-- **A token is valid for its key exactly when its claims hold.** -/
theorem validate_ofPayload_eq_ok_iff {c' : Claims} :
    validate (ofPayload key c.payload) key now vkId paramsVersion = .ok c' ↔
      c.Holds now vkId paramsVersion ∧ c = c' := by
  rw [validate, parse_ofPayload]
  exact checkClaims_eq_ok_iff

theorem validate_ofPayload_eq_expired (h : c.expiresAt ≤ now) :
    validate (ofPayload key c.payload) key now vkId paramsVersion = .error .expired := by
  rw [validate, parse_ofPayload]
  exact if_pos h

/-- **A token says what it was issued for.**  There is one exactly for claims of a user, with a
challenge of 53 bits that is not zero and an end that is not zero.  It is read as these claims, in
which only what was empty has been filled in and the key identifier put in the place of another one;
it is valid for the key and the policy that it names until it ends, and has expired from then on. -/
theorem issue_parse_validate (c : Claims) (key : TokenKey) (kid : Option String) (draw : Draw) :
    ((∃ token, issue c key kid draw = .ok token) ↔ c.userId ≠ ""
        ∧ (1 ≤ c.challenge.toNat ∧ c.challenge.toNat ≤ 2 ^ 53 - 1) ∧ c.expiresAt ≠ 0)
      ∧ ∀ token, issue c key kid draw = .ok token → ∃ c' : Claims,
        c' = { c with
          nonce := if c.nonce = "" then draw.nonceText else c.nonce
          jti := if c.jti = "" then draw.idText else c.jti
          version := if c.version = "" then "ct-v1" else c.version
          paramsVersion := if c.paramsVersion = "" then Policy.default.version else c.paramsVersion
          keyId := kid.or c.keyId }
        ∧ parse token key = .ok c'
        ∧ (c.version = "" ∨ c.version = "ct-v1" → ∀ now, now < c.expiresAt →
          validate token key now c'.vkId c'.paramsVersion = .ok c')
        ∧ ∀ now, c.expiresAt ≤ now →
          validate token key now c'.vkId c'.paramsVersion = .error .expired := by
  constructor
  · simp only [issue_eq_ok_iff, exists_and_left, exists_eq, and_true, checkIssuable_eq_ok_iff,
      ← challenge_bounds_iff]
    constructor
    · rintro ⟨huser, hchallenge, hend, hgreatest⟩
      exact ⟨huser, ⟨hchallenge, hgreatest⟩, hend⟩
    · rintro ⟨huser, ⟨hchallenge, hgreatest⟩, hend⟩
      exact ⟨huser, hchallenge, hend, hgreatest⟩
  · intro token hissue
    obtain ⟨-, rfl⟩ := issue_eq_ok_iff.mp hissue
    refine ⟨complete c kid draw, rfl, parse_ofPayload key _, fun hversion now hnow => ?_,
      fun now hend => validate_ofPayload_eq_expired hend⟩
    have hversion' : (complete c kid draw).version = Claims.currentVersion := by
      change (if c.version = "" then "ct-v1" else c.version) = "ct-v1"
      split
      case isTrue => rfl
      case isFalse hne => exact hversion.resolve_left hne
    exact validate_ofPayload_eq_ok_iff.mpr
      ⟨⟨hnow, .inr rfl, .inr rfl, .inr hversion'⟩, rfl⟩

/-- Claims with everything in their texts that a JSON text has to escape, with characters beyond the
first plane, with the greatest challenge and an end before the epoch. -/
def strangeClaims : Claims :=
  { Claims.of "\"\\\u0000\n\u001f😀\u2028" 0x1FFFFFFFFFFFFF (-1) with
    vkId := "\"", keyId := some "old", version := "ct-v1" }

/-- Their token says all of this again, until it ends. -/
theorem issue_parse_validate_sample :
    ∃ token c', issue strangeClaims sampleKey (some "kid\t") sampleDraw = .ok token
      ∧ parse token sampleKey = .ok c'
      ∧ c' = { strangeClaims with
          nonce := sampleDraw.nonceText, jti := sampleDraw.idText, keyId := some "kid\t"
          paramsVersion := Policy.default.version }
      ∧ validate token sampleKey (-2) "\"" Policy.default.version = .ok c'
      ∧ validate token sampleKey (-1) "\"" Policy.default.version = .error .expired := by
  obtain ⟨hissue, hread⟩ := issue_parse_validate strangeClaims sampleKey (some "kid\t") sampleDraw
  obtain ⟨token, htoken⟩ := hissue.mpr ⟨by decide, by decide, by decide⟩
  obtain ⟨c', rfl, hparse, hvalid, hexpired⟩ := hread token htoken
  exact ⟨token, _, htoken, hparse, rfl, hvalid (.inr rfl) (-2) (by decide),
    hexpired (-1) (by decide)⟩

end ProofLogin.Token
