import Mathlib.Logic.ExistsUnique
import ProofLogin.Proofs.Token.Issue
import ProofLogin.Proofs.Token.Service

/-!
# Proofs/Token/Uniqueness — a payload has one token

    payload ──▸ letters of the payload . letters of its signature

A token is accepted exactly when it is put together in this way (`parse_eq_ok_iff`): both its
segments are the only letters of what they spell, and the second one spells the signature of the
first.  So nothing can be changed in a token without changing its payload
(`parse_one_token_per_payload`), and whatever is not accepted is invalid
(`exists_invalid_of_parse`).
-/

namespace ProofLogin.Token

variable {key : TokenKey} {token : String} {payload : Bytes} {c : Claims} {err : TokenError}

/-- **The tokens of a key** are those of the payloads that are claims. -/
theorem parse_eq_ok_iff : parse token key = .ok c ↔
    ∃ payload, token = ofPayload key payload ∧ Claims.ofPayload? payload = some c := by
  rw [parse, Outcome.bind_eq_ok]
  constructor
  · rintro ⟨⟨payload, tag⟩, hsplit, h⟩
    obtain ⟨⟨⟩, hsign, hclaims⟩ := Outcome.bind_eq_ok.mp h
    obtain rfl := checkSignature_eq_ok_iff.mp hsign
    exact ⟨payload, split_eq_ok_iff.mp hsplit, decodeClaims_eq_ok_iff.mp hclaims⟩
  · rintro ⟨payload, rfl, hclaims⟩
    exact ⟨_, split_ofPayload key payload, Outcome.bind_eq_ok.mpr
      ⟨(), checkSignature_eq_ok_iff.mpr rfl, decodeClaims_eq_ok_iff.mpr hclaims⟩⟩

/-! ## Refusals -/

theorem exists_invalid_of_split (h : split token = .error err) :
    ∃ reason, err = .invalid reason := by
  rw [split] at h
  split at h
  case h_1 => exact ⟨_, (Except.error.inj h).symm⟩
  case h_2 =>
    split at h
    case h_1 => exact ⟨_, (Except.error.inj h).symm⟩
    case h_2 =>
      split at h
      case h_1 => exact ⟨_, (Except.error.inj h).symm⟩
      case h_2 => cases h

/-- **What is not accepted is invalid**: there is no other reason. -/
theorem exists_invalid_of_parse (h : parse token key = .error err) :
    ∃ reason, err = .invalid reason := by
  obtain hsplit | ⟨⟨payload, tag⟩, -, h⟩ := Outcome.bind_eq_error.mp h
  · exact exists_invalid_of_split hsplit
  obtain hsign | ⟨⟨⟩, -, hclaims⟩ := Outcome.bind_eq_error.mp h
  · rw [checkSignature] at hsign
    split at hsign
    case isTrue => cases hsign
    case isFalse => exact ⟨_, (Except.error.inj hsign).symm⟩
  · rw [decodeClaims] at hclaims
    split at hclaims
    case h_1 => exact ⟨_, (Except.error.inj hclaims).symm⟩
    case h_2 => cases hclaims

/-- **A change of the signature alone makes a token invalid**, whatever is put in its place. -/
theorem exists_parse_eq_invalid {tag : String} (h : tag ≠ Base64Url.encode (key.sign payload)) :
    ∃ reason, parse (Base64Url.encode payload ++ "." ++ tag) key = .error (.invalid reason) := by
  cases hparse : parse (Base64Url.encode payload ++ "." ++ tag) key with
  | error err =>
    obtain ⟨reason, rfl⟩ := exists_invalid_of_parse hparse
    exact ⟨reason, rfl⟩
  | ok c =>
    obtain ⟨payload', htoken, -⟩ := parse_eq_ok_iff.mp hparse
    obtain ⟨hpayload, htag⟩ := append_point_inj (Base64Url.point_notMem_encode _)
      (Base64Url.point_notMem_encode _) htoken
    obtain rfl := Base64Url.encode_injective hpayload
    exact absurd htag h

/-! ## One token -/

/-- **Each payload has one token, and each token one payload.**  What a key accepts is put together
from a payload of claims and its keyed digest; no other text that begins with the letters of the
payload is accepted, and a change behind the point makes a token invalid.  What is accepted beside
an issued token has another payload, with the keyed digest of that. -/
theorem parse_one_token_per_payload (key : TokenKey) :
    (∀ token c, parse token key = .ok c ↔ ∃ payload,
        token = Base64Url.encode payload ++ "."
          ++ Base64Url.encode (Hmac.hash key.octets payload).toBytes
        ∧ Claims.ofPayload? payload = some c)
      ∧ (∀ payload c, Claims.ofPayload? payload = some c → ∃! token,
          (∃ tag, token = Base64Url.encode payload ++ "." ++ tag) ∧ ∃ c, parse token key = .ok c)
      ∧ (∀ payload tag, tag ≠ Base64Url.encode (Hmac.hash key.octets payload).toBytes →
          ∃ reason, parse (Base64Url.encode payload ++ "." ++ tag) key = .error (.invalid reason))
      ∧ ∀ claims kid draw issued, issue claims key kid draw = .ok issued →
          ∀ token c, parse token key = .ok c → token ≠ issued → ∃ payload payload',
            issued = ofPayload key payload ∧ payload' ≠ payload
            ∧ token = Base64Url.encode payload' ++ "."
              ++ Base64Url.encode (Hmac.hash key.octets payload').toBytes := by
  refine ⟨fun token c => parse_eq_ok_iff, fun payload c hclaims => ?_,
    fun payload tag htag => exists_parse_eq_invalid htag, ?_⟩
  · refine ⟨ofPayload key payload,
      ⟨⟨_, rfl⟩, c, parse_eq_ok_iff.mpr ⟨payload, rfl, hclaims⟩⟩, ?_⟩
    rintro _ ⟨⟨tag, rfl⟩, c', hparse⟩
    by_cases htag : tag = Base64Url.encode (key.sign payload)
    · exact congrArg (_ ++ ·) htag
    · obtain ⟨reason, hinvalid⟩ := exists_parse_eq_invalid htag
      rw [hinvalid] at hparse
      cases hparse
  · intro claims kid draw issued hissue token c hparse hne
    have hissued := (issue_eq_ok_iff.mp hissue).2
    obtain ⟨payload', htoken, -⟩ := parse_eq_ok_iff.mp hparse
    refine ⟨(complete claims kid draw).payload, payload', hissued, fun hpayload => ?_, htoken⟩
    rw [hpayload] at htoken
    exact hne (htoken.trans hissued.symm)

/-! ## Two tokens -/

/-- A key of ones. -/
def sampleKey : TokenKey := ⟨List.replicate 16 1, by decide⟩

/-- The token of claims that were drawn elsewhere. -/
def sampleToken : String := ofPayload sampleKey (Claims.sample "").payload

/-- What is drawn for the second token. -/
def sampleDraw : Draw := ⟨1, 2, 3⟩

theorem sampleToken_ne_issued :
    sampleToken ≠ ofPayload sampleKey (complete (.sample "") none sampleDraw).payload := by
  intro h
  have hsplit := split_ofPayload sampleKey (Claims.sample "").payload
  have hsplit' := split_ofPayload sampleKey (complete (.sample "") none sampleDraw).payload
  rw [← h] at hsplit'
  have hpayload := (Prod.mk.inj (Except.ok.inj (hsplit.symm.trans hsplit'))).1
  have hclaims := congrArg Claims.ofPayload? hpayload
  rw [Claims.ofPayload?_payload, Claims.ofPayload?_payload] at hclaims
  have hnonce : "" = sampleDraw.nonceText := congrArg Claims.nonce (Option.some.inj hclaims)
  exact absurd hnonce (by decide)

/-- A token is accepted, with a pad sign behind it it is invalid, and the token that is issued for
the same claims, with a drawn nonce, has another payload. -/
theorem parse_one_token_sample :
    parse sampleToken sampleKey = .ok (.sample "")
      ∧ (∃ reason, parse (sampleToken ++ "=") sampleKey = .error (.invalid reason))
      ∧ ∃ payload payload', ofPayload sampleKey (complete (.sample "") none sampleDraw).payload
          = ofPayload sampleKey payload ∧ payload' ≠ payload
        ∧ sampleToken = Base64Url.encode payload' ++ "."
          ++ Base64Url.encode (Hmac.hash sampleKey.octets payload').toBytes := by
  obtain ⟨haccepted, -, hrefused, hother⟩ := parse_one_token_per_payload sampleKey
  have hparse := (haccepted sampleToken (.sample "")).mpr
    ⟨(Claims.sample "").payload, rfl, Claims.ofPayload?_payload _⟩
  have hissue : issue (.sample "") sampleKey none sampleDraw
      = .ok (ofPayload sampleKey (complete (.sample "") none sampleDraw).payload) :=
    issue_eq_ok_iff.mpr ⟨checkIssuable_eq_ok_iff.mpr (by decide), rfl⟩
  refine ⟨hparse, ?_, hother _ _ _ _ hissue _ _ hparse sampleToken_ne_issued⟩
  have hpad : sampleToken ++ "=" = Base64Url.encode (Claims.sample "").payload ++ "."
      ++ (Base64Url.encode (Hmac.hash sampleKey.octets (Claims.sample "").payload).toBytes
        ++ "=") :=
    String.append_assoc ..
  rw [hpad]
  refine hrefused _ _ fun h => ?_
  have hlength := congrArg String.length h
  have hsign : "=".length = 1 := rfl
  rw [String.length_append] at hlength
  omega

end ProofLogin.Token
