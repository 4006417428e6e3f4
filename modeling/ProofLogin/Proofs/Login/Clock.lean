import ProofLogin.Proofs.Chronology
import ProofLogin.Proofs.Login.Verifier

/-!
# Proofs/Login/Clock — an expired key as the clock goes on

    count            │ first ────── 0 ────── last │
    moment    epoch  │ first ──── epoch ──── last │  epoch

A clock counts further than the calendar goes, and shows the beginning of 1970 where the calendar
has no moment.  Of two counts the later one is therefore the earlier moment exactly if it has gone
past the end of the calendar, or has come into it before 1970 (`Instant.ofUnix_lt_ofUnix_iff`).
Apart from this an expired key is refused for ever by a registry that stays as it is
(`LoginVerifier.expired_stays_refused`).  Where the clock reads back so, the key is trusted again if
it has not expired by the moment that is shown, and logins are admitted under it
(`LoginVerifier.expired_key_admits_login`).
-/

namespace ProofLogin

namespace Instant

variable {a b : Int64}

/-- **A clock reads back** from one count to a later one: it leaves the calendar at its end, after
1970, or comes into it at its beginning, before 1970. -/
def ReadsBack (a b : Int64) : Prop :=
  0 < a.toInt ∧ a.toInt ≤ last.seconds ∧ last.seconds < b.toInt
    ∨ a.toInt < first.seconds ∧ first.seconds ≤ b.toInt ∧ b.toInt < 0

instance (a b : Int64) : Decidable (ReadsBack a b) :=
  inferInstanceAs (Decidable (_ ∨ _))

theorem seconds_ofUnix (a : Int64) :
    (ofUnix a).seconds = if inCalendar a.toInt then a.toInt else 0 := by
  rw [ofUnix]
  split <;> rfl

/-- A clock counts whole seconds. -/
theorem nanos_ofUnix (a : Int64) : (ofUnix a).nanos = 0 := by
  rw [ofUnix]
  split <;> rfl

/-- **Of two counts the later one is the earlier moment exactly if the clock reads back.** -/
theorem ofUnix_lt_ofUnix_iff (hab : a ≤ b) : ofUnix b < ofUnix a ↔ ReadsBack a b := by
  have hle : a.toInt ≤ b.toInt := Int64.le_iff_toInt_le.mp hab
  have hfirst : first.seconds = -8334601228800 := rfl
  have hlast : last.seconds = 8210266876799 := rfl
  simp only [lt_iff, seconds_ofUnix, nanos_ofUnix, ReadsBack, inCalendar, hfirst, hlast,
    Bool.and_eq_true, decide_eq_true_eq]
  omega

/-- Inside of the calendar a clock does not read back. -/
theorem not_readsBack (ha : inCalendar a.toInt = true) (hb : inCalendar b.toInt = true) :
    ¬ReadsBack a b := by
  simp only [inCalendar, Bool.and_eq_true, decide_eq_true_eq] at ha hb
  rw [ReadsBack]
  omega

end Instant

namespace KeyRegistry

variable {r : KeyRegistry} {k : Fingerprint} {v : KeyVersion} {t t' : Instant}

/-- **A key that has expired at one moment is trusted at the moments before it that are up to its
expiry, and at no other ones.** -/
theorem isValidAt_iff_of_expired (hv : r.find? k = some v) (hexpired : r.isValidAt k t = false) :
    r.isValidAt k t' = true ↔ t' < t ∧ ∀ e, v.expiresAt = some e → t' ≤ e := by
  obtain ⟨e, he, hlt⟩ := (isValidAt_eq_false_iff_of_find? hv).mp hexpired
  rw [isValidAt_iff_of_find? hv, iff_and_self]
  exact fun hvalid => lt_of_le_of_lt (hvalid e he) hlt

end KeyRegistry

namespace LoginVerifier

variable {registry : KeyRegistry} {K : Fingerprint} {version : KeyVersion} {a b now : Int64}

/-- **No login is admitted under a key**: whatever the verifier and its proof system, the state of
its store, the token and the envelope are, a login that is admitted has been checked with another
key, and its token is for another key. -/
def NoLoginUnder (registry : KeyRegistry) (K : Fingerprint) (now : Int64) : Prop :=
  ∀ (S : ProofSystem) (v : LoginVerifier S) (store : ReplayStore) (token : String) (e : Envelope)
    (userId : String) (stored : Commitment) (c : Claims),
    (v.verifyLogin registry store token e userId stored now).1 = .ok c →
      v.resolveKey registry e.vkId (.ofUnix now) ≠ .ok K ∧ c.vkId ≠ K.toHex

/-- No login is admitted under a key that the registry does not trust. -/
theorem noLoginUnder_of_not_valid (h : registry.isValidAt K (.ofUnix now) = false) :
    NoLoginUnder registry K now := by
  intro S v store token e userId stored c hlogin
  obtain ⟨key, hauthorize, -⟩ := verifyLogin_eq_ok_iff.mp hlogin
  obtain ⟨-, -, -, K', hresolve, -, hvalidate, -, hvalid, -⟩ := authorize_eq_ok_iff.mp hauthorize
  have hne : K' ≠ K := by
    rintro rfl
    exact absurd (hvalid.symm.trans h) nofun
  have hname : c.vkId = K'.toHex :=
    (TokenService.validate_eq_ok_iff.mp hvalidate).2.vkId_eq.resolve_left K'.toHex_ne_empty
  rw [hresolve, hname]
  exact ⟨fun h => hne (Except.ok.inj h), fun h => hne (Fingerprint.toHex_injective h)⟩

/-- **An expired key stays refused as the clock goes on**, unless the clock reads back.  Where the
registry does not trust a key at one count of the clock, it trusts it at a later one exactly if the
clock reads back from the one to the other, to a moment that is not after the expiry of the key.  So
no login is admitted under the key at the first count, nor, where the clock does not read back, at
the later one; and inside of the calendar it does not. -/
theorem expired_stays_refused (hfind : registry.find? K = some version) (hab : a ≤ b)
    (hexpired : registry.isValidAt K (.ofUnix a) = false) :
    NoLoginUnder registry K a
      ∧ (registry.isValidAt K (.ofUnix b) = true ↔ Instant.ReadsBack a b
        ∧ ∀ e, version.expiresAt = some e → Instant.ofUnix b ≤ e)
      ∧ (¬Instant.ReadsBack a b →
        registry.isValidAt K (.ofUnix b) = false ∧ NoLoginUnder registry K b)
      ∧ (Instant.inCalendar a.toInt = true → Instant.inCalendar b.toInt = true →
        ¬Instant.ReadsBack a b) := by
  have hvalid : registry.isValidAt K (.ofUnix b) = true ↔ Instant.ReadsBack a b
      ∧ ∀ e, version.expiresAt = some e → Instant.ofUnix b ≤ e := by
    rw [← Instant.ofUnix_lt_ofUnix_iff hab]
    exact KeyRegistry.isValidAt_iff_of_expired hfind hexpired
  refine ⟨noLoginUnder_of_not_valid hexpired, hvalid, fun hforward => ?_, Instant.not_readsBack⟩
  have hrefused : registry.isValidAt K (.ofUnix b) = false :=
    Bool.eq_false_iff.mpr fun h => hforward (hvalid.mp h).1
  exact ⟨hrefused, noLoginUnder_of_not_valid hrefused⟩

/-! ## Past the end of the calendar -/

/-- A registry in which the key expires in second 10. -/
def expiringRegistry : KeyRegistry :=
  ⟨[⟨"1", sampleKey.fingerprint, sampleKey.fingerprint, .epoch, some (.ofUnix 10), true⟩],
    some sampleKey.fingerprint, 0⟩

/-- Claims that hold as long as a clock counts. -/
def lastingClaims : Claims :=
  { Claims.sample sampleKey.fingerprint.toHex with expiresAt := .maxValue }

theorem find?_expiringRegistry : expiringRegistry.find? sampleKey.fingerprint = some
    ⟨"1", sampleKey.fingerprint, sampleKey.fingerprint, .epoch, some (.ofUnix 10), true⟩ :=
  List.find?_cons_of_pos (decide_eq_true rfl)

/-- The key is trusted up to second 10. -/
theorem isValidAt_expiringRegistry {moment : Instant} :
    expiringRegistry.isValidAt sampleKey.fingerprint moment = true ↔ moment ≤ .ofUnix 10 := by
  simp [KeyRegistry.isValidAt_iff_of_find? find?_expiringRegistry]

/-- The key has expired in second 20. -/
theorem not_isValidAt_expiringRegistry :
    expiringRegistry.isValidAt sampleKey.fingerprint (.ofUnix 20) = false := by
  rw [← Bool.not_eq_true, isValidAt_expiringRegistry]
  decide

/-- A token that carries the claims is admitted with the key, as long as the key is trusted. -/
theorem admits_lastingClaims {key : TokenKey}
    (hkey : sample.tokens.keys.select lastingClaims.keyId = .ok key) (stored : Commitment)
    (hnow : now < Int64.maxValue) (hvalid : Instant.ofUnix now ≤ .ofUnix 10) :
    sample.Admits expiringRegistry (.memory []) (Token.ofPayload key lastingClaims.payload)
      (sampleEnvelope stored) "alice" stored now lastingClaims sampleKey.fingerprint where
  token_ne := Token.ofPayload_ne_empty _ _
  userId_ne := by decide
  proofVersion_eq := rfl
  valid := isValidAt_expiringRegistry.mpr hvalid
  names := .inr ⟨rfl, rfl⟩
  paramsVersion_eq := .inl rfl
  signs := Token.signs_ofPayload hkey
  now_lt := hnow
  claims_vkId_eq := rfl
  claims_paramsVersion_eq := rfl
  claims_version_eq := .inl rfl
  claims_userId_eq := rfl
  commitment_eq := fun _ h => by cases h
  salt_eq := fun _ h => by cases h
  jti_ne := by decide
  unused := rfl
  proof_eq := ⟨sampleKey, by simp [authKey?, sample], rfl⟩

/-- **An expired key comes back past the end of the calendar**: a registered key that has expired in
second 20, and under which no login is admitted then, is trusted in the first second after the
calendar, and a login is admitted that has been checked with it. -/
theorem expired_key_admits_login :
    (∃ version, expiringRegistry.find? sampleKey.fingerprint = some version)
      ∧ (20 : Int64) ≤ 8210266876800
      ∧ expiringRegistry.isValidAt sampleKey.fingerprint (.ofUnix 20) = false
      ∧ NoLoginUnder expiringRegistry sampleKey.fingerprint 20
      ∧ expiringRegistry.isValidAt sampleKey.fingerprint (.ofUnix 8210266876800) = true
      ∧ ∃ token e stored c, (sample.verifyLogin expiringRegistry (.memory []) token e "alice" stored
          8210266876800).1 = .ok c
        ∧ sample.resolveKey expiringRegistry e.vkId (.ofUnix 8210266876800)
          = .ok sampleKey.fingerprint
        ∧ c.vkId = sampleKey.fingerprint.toHex := by
  let stored : Commitment := ⟨.ofNat 5, ⟨List.replicate 8 0, by decide⟩⟩
  obtain ⟨key, hkey⟩ : ∃ key, sample.tokens.keys.select lastingClaims.keyId = .ok key := ⟨_, rfl⟩
  have hadmits := admits_lastingClaims hkey stored
    (by decide : (8210266876800 : Int64) < Int64.maxValue) (by decide)
  have hholds : sample.holds sampleKey.fingerprint = true :=
    holds_iff.mpr ⟨sampleKey, by simp [authKey?, sample]⟩
  exact ⟨⟨_, find?_expiringRegistry⟩, by decide, not_isValidAt_expiringRegistry,
    noLoginUnder_of_not_valid not_isValidAt_expiringRegistry, hadmits.valid,
    _, _, _, _, hadmits.verifyLogin_eq_ok built_sample.wellFormed,
    (resolveKey_eq_ok_iff hadmits.valid (.inl rfl)).mpr ⟨hholds, .inr ⟨rfl, rfl⟩⟩, rfl⟩

/-- The key that has expired in second 20 is refused up to the last second of the calendar, and is
trusted in the next one. -/
theorem expired_stays_refused_sample :
    (expiringRegistry.isValidAt sampleKey.fingerprint (.ofUnix 8210266876799) = false
        ∧ NoLoginUnder expiringRegistry sampleKey.fingerprint 8210266876799)
      ∧ expiringRegistry.isValidAt sampleKey.fingerprint (.ofUnix 8210266876800) = true := by
  obtain ⟨-, -, hforward, -⟩ := expired_stays_refused (b := 8210266876799) find?_expiringRegistry
    (by decide) not_isValidAt_expiringRegistry
  obtain ⟨-, hback, -, -⟩ := expired_stays_refused (b := 8210266876800) find?_expiringRegistry
    (by decide) not_isValidAt_expiringRegistry
  exact ⟨hforward (by decide), hback.mpr ⟨by decide, by decide⟩⟩

end LoginVerifier

end ProofLogin
