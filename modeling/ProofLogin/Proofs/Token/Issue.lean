import ProofLogin.Proofs.Outcome
import ProofLogin.Proofs.Policy
import ProofLogin.Proofs.Token.KeySet
import ProofLogin.Proofs.Token.Validity
import ProofLogin.Token.Service

/-!
# Proofs/Token/Issue — a service always has a challenge for a user

    draw  ──▸  issuedClaims  ──complete──▸  claims with a key  ──ofPayload──▸  token

`issueFor_eq_ok` says that nothing on the way refuses, whatever has been drawn, and which claims the
token carries: nothing of what a service says is left to be filled in later
(`complete_issuedClaims`).  For a service made of any keys there is always such a token
(`exists_issueFor`).
-/

namespace ProofLogin

/-! ## Draws -/

theorem Draw.idText_ne_empty (d : Draw) : d.idText ≠ "" := by
  intro h
  have hmem : '-' ∈ d.idText.toList := by
    simp only [idText, String.toList_append, List.mem_append]
    exact .inl (.inr (.head _))
  rw [h] at hmem
  cases hmem

theorem Draw.challengeNumber_ne_zero (d : Draw) : d.challengeNumber ≠ 0 := by
  intro h
  have hpos := d.challengeNumber_bounds.1
  rw [h] at hpos
  exact absurd hpos (by decide)

/-- **What can be issued**: claims for a user with a challenge of the right size and an end. -/
theorem Token.checkIssuable_eq_ok_iff {c : Claims} : checkIssuable c = .ok () ↔
    c.userId ≠ "" ∧ c.challenge ≠ 0 ∧ c.expiresAt ≠ 0
      ∧ c.challenge.toNat ≤ Draw.greatestChallenge := by
  rw [checkIssuable, Outcome.ite_error_eq_ok, Outcome.ite_error_eq_ok, Outcome.ite_error_eq_ok,
    Outcome.ite_error_eq_ok, and_iff_left rfl, Nat.not_lt]

/-- **Claims that can be issued have one token for each draw.** -/
theorem Token.issue_eq_ok_iff {c : Claims} {key : TokenKey} {kid : Option String} {draw : Draw}
    {token : String} : issue c key kid draw = .ok token ↔
      checkIssuable c = .ok () ∧ token = ofPayload key (complete c kid draw).payload := by
  rw [issue, Outcome.map_eq_ok]
  constructor
  · rintro ⟨⟨⟩, hissuable, rfl⟩
    exact ⟨hissuable, rfl⟩
  · rintro ⟨hissuable, rfl⟩
    exact ⟨(), hissuable, rfl⟩

namespace TokenService

variable {s : TokenService} {keys : KeySet} {key : TokenKey} {policy : Policy} {ttl : UInt64}
  {userId vkId kid : String} {now : Int64} {draw : Draw}

/-! ## Services -/

/-- **There is a service for every set with keys and every time to live of 63 bits.** -/
theorem of_eq_ok_iff : TokenService.of keys policy ttl = .ok s ↔
    keys.isEmpty = false ∧ (0 < ttl.toNat ∧ ttl.toNat < 0x8000000000000000)
      ∧ s = ⟨keys, policy.version, Int64.ofNat ttl.toNat⟩ := by
  rw [TokenService.of, Outcome.ite_error_eq_ok, Outcome.ite_ok_eq_ok, Bool.not_eq_true,
    Except.ok.injEq, eq_comm (a := s)]

theorem toInt_ttl (h : TokenService.of keys policy ttl = .ok s) : s.ttl.toInt = ttl.toNat := by
  obtain ⟨-, ⟨-, hhigh⟩, rfl⟩ := of_eq_ok_iff.mp h
  exact Int64.toInt_ofNat_of_lt hhigh

/-- **A service of any keys can sign**, and selects the key that it signs with by its name. -/
theorem exists_signingKey (h : TokenService.of keys policy ttl = .ok s) (hkeys : keys.Built) :
    ∃ kid key, s.keys.signingKey = .ok (kid, key) ∧ s.keys.select (some kid) = .ok key := by
  obtain ⟨hne, -, rfl⟩ := of_eq_ok_iff.mp h
  exact hkeys.hasDefault.exists_signingKey hne

/-! ## The end of a token -/

theorem toInt_addSaturating (a b : Int64) : (addSaturating a b).toInt
    = max Int64.minValue.toInt (min Int64.maxValue.toInt (a.toInt + b.toInt)) := by
  have hmin : Int64.minValue.toInt = -0x8000000000000000 := rfl
  have hmax : Int64.maxValue.toInt = 0x7FFFFFFFFFFFFFFF := rfl
  rw [addSaturating, Int64.toInt_ofInt_of_le]
  · rw [hmin]
    exact Int.le_max_left _ _
  · rw [hmin, hmax]
    omega

/-- **A token ends after it begins**, unless time has come to an end. -/
theorem lt_addSaturating {a b : Int64} (ha : a < Int64.maxValue) (hb : 0 < b.toInt) :
    a < addSaturating a b := by
  rw [Int64.lt_iff_toInt_lt] at ha ⊢
  rw [toInt_addSaturating]
  omega

theorem lt_addSaturating_ttl (h : TokenService.of keys policy ttl = .ok s)
    (hend : now < Int64.maxValue) : now < addSaturating now s.ttl := by
  obtain ⟨-, ⟨hpos, -⟩, -⟩ := of_eq_ok_iff.mp h
  refine lt_addSaturating hend ?_
  rw [toInt_ttl h]
  exact Int.natCast_pos.mpr hpos

/-! ## What a token says -/

/-- **What a service says in a token for a user**, under the key that signs it. -/
def issuedClaims (s : TokenService) (userId vkId : String) (now : Int64) (draw : Draw)
    (kid : String) : Claims where
  userId
  challenge := draw.challengeNumber
  expiresAt := addSaturating now s.ttl
  nonce := draw.nonceText
  jti := draw.idText
  vkId
  paramsVersion := s.paramsVersion
  keyId := some kid
  version := Claims.currentVersion

/-- The claims that `issueFor` starts from come out complete. -/
theorem complete_issuedClaims (h : s.paramsVersion ≠ "") :
    Token.complete { Claims.of userId draw.challengeNumber (addSaturating now s.ttl) with
      vkId, jti := draw.idText, paramsVersion := Token.orElse "" s.paramsVersion } (some kid) draw
      = s.issuedClaims userId vkId now draw kid := by
  have hparams : Token.orElse "" s.paramsVersion = s.paramsVersion := if_pos rfl
  have hparams' (other : String) : Token.orElse s.paramsVersion other = s.paramsVersion := if_neg h
  have hjti (other : String) : Token.orElse draw.idText other = draw.idText :=
    if_neg draw.idText_ne_empty
  have hnonce : Token.orElse "" draw.nonceText = draw.nonceText := if_pos rfl
  have hversion : Token.orElse "" Claims.currentVersion = Claims.currentVersion := if_pos rfl
  simp only [Token.complete, issuedClaims, Claims.of, hparams, hparams', hjti, hnonce, hversion,
    Option.some_or]

/-- **A service that can sign has a challenge for every user and every draw.** -/
theorem issueFor_eq_ok (hkey : s.keys.signingKey = .ok (kid, key)) (hparams : s.paramsVersion ≠ "")
    (huser : userId ≠ "") (hend : addSaturating now s.ttl ≠ 0) :
    s.issueFor userId vkId now draw = .ok ⟨Token.ofPayload key
        (s.issuedClaims userId vkId now draw kid).payload,
      draw.challengeNumber, draw.idText, addSaturating now s.ttl⟩ := by
  have hissuable : Token.checkIssuable
      { Claims.of userId draw.challengeNumber (addSaturating now s.ttl) with
        vkId, jti := draw.idText, paramsVersion := Token.orElse "" s.paramsVersion } = .ok () :=
    Token.checkIssuable_eq_ok_iff.mpr
      ⟨huser, draw.challengeNumber_ne_zero, hend, draw.challengeNumber_bounds.2⟩
  have hissue : s.issue { Claims.of userId draw.challengeNumber (addSaturating now s.ttl) with
      vkId, jti := draw.idText } draw
        = .ok (Token.ofPayload key (s.issuedClaims userId vkId now draw kid).payload) := by
    rw [issue, Outcome.mapError_eq_ok, Token.issueWith, hkey, ← complete_issuedClaims hparams]
    exact Token.issue_eq_ok_iff.mpr ⟨hissuable, rfl⟩
  rw [issueFor, hissue]
  rfl

/-- **A service of any keys has a challenge for every user**, which ends after it begins. -/
theorem exists_issueFor (h : TokenService.of keys policy ttl = .ok s) (hkeys : keys.Built)
    (huser : userId ≠ "") (vkId : String) (hstart : 0 ≤ now) (hend : now < Int64.maxValue)
    (draw : Draw) :
    ∃ issued, s.issueFor userId vkId now draw = .ok issued ∧ now < issued.expiresAt := by
  obtain ⟨kid, key, hsigning, -⟩ := exists_signingKey h hkeys
  have hparams : s.paramsVersion ≠ "" := by
    obtain ⟨-, -, rfl⟩ := of_eq_ok_iff.mp h
    exact policy.version_ne_empty
  have hlt : now < addSaturating now s.ttl := lt_addSaturating_ttl h hend
  have hnonzero : addSaturating now s.ttl ≠ 0 := fun h =>
    Int64.lt_irrefl (Int64.lt_of_le_of_lt hstart (h ▸ hlt))
  exact ⟨_, issueFor_eq_ok hsigning hparams huser hnonzero, hlt⟩

/-- The token carries the claims under the key that they name. -/
theorem signs_issuedClaims (hkey : s.keys.select (some kid) = .ok key) :
    Token.Signs s.keys (Token.ofPayload key (s.issuedClaims userId vkId now draw kid).payload)
      (s.issuedClaims userId vkId now draw kid) :=
  Token.signs_ofPayload hkey

end TokenService

end ProofLogin
