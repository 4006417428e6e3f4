import ProofLogin.Proofs.Token.Uniqueness

/-!
# Proofs/Token/Rotation — the keys rotate, and the tokens that are out stay what they are

    set ── insert, insertDefault, remove ──▸ set ── … ──▸ set
     │                                                     │
     └── issueWith ──▸ token, which names its key ─────────┴── parseWith ──▸ claims

A set has a default key as long as it has keys (`HasDefault.defaultKid_eq_none_iff`), so nothing but
an empty set keeps a token from being signed (`HasDefault.issueWith_eq_keyMissing_iff`).  A token
names the key that it is signed with, and is read under this one whichever key signs by then: what
matters is what the set holds under that identifier (`parseWith_ofPayload_eq_error`,
`run_keeps_tokens`).
-/

namespace ProofLogin

/-! ## Refusals -/

namespace Token

variable {keys : KeySet} {key : TokenKey} {c : Claims}

/-- Claims are never refused for want of a key. -/
theorem issue_ne_keyMissing (c : Claims) (key : TokenKey) (kid : Option String) (draw : Draw) :
    issue c key kid draw ≠ .error .keyMissing := by
  intro h
  rw [issue, checkIssuable] at h
  split at h
  case isTrue => cases h
  split at h
  case isTrue => cases h
  split at h
  case isTrue => cases h
  split at h
  case isTrue => cases h
  case isFalse => cases h

/-- **A token whose key is not selected is refused as its selection is.** -/
theorem parseWith_ofPayload_eq_error {err : TokenError} (h : keys.select c.keyId = .error err) :
    parseWith (ofPayload key c.payload) keys = .error err := by
  rw [parseWith]
  split
  case isTrue hempty =>
    obtain rfl := Except.error.inj ((select_of_isEmpty hempty _).symm.trans h)
    rfl
  case isFalse =>
    refine Outcome.bind_eq_error.mpr (.inr ⟨_, split_ofPayload key c.payload, ?_⟩)
    simp only [Claims.keyHint?_payload]
    exact Outcome.bind_eq_error.mpr (.inl h)

end Token

namespace KeySet

variable {s : KeySet} {kid : String} {key : TokenKey}

theorem select_of_missing (hne : s.isEmpty = false) (h : s.get? kid = none) :
    s.select (some kid) = .error (.invalid ("unknown key id " ++ Text.quoted kid)) := by
  rw [select, if_neg (Bool.eq_false_iff.mp hne)]
  simp only [h]

/-! ## The key that signs -/

theorem signingKey_eq_ok_iff :
    s.signingKey = .ok (kid, key) ↔ s.defaultKid = some kid ∧ s.get? kid = some key := by
  rw [signingKey]
  cases s.defaultKid with
  | none => simp
  | some kid' =>
    simp only [Option.some.injEq]
    constructor
    · intro h
      split at h
      case h_1 => cases h
      case h_2 key' hkey =>
        cases h
        exact ⟨rfl, hkey⟩
    · rintro ⟨rfl, hkey⟩
      simp only [hkey]

theorem HasDefault.defaultKid_eq_none_iff (h : s.HasDefault) :
    s.defaultKid = none ↔ s.isEmpty = true := by
  constructor
  · intro hnone
    rw [isEmpty, h.keys_eq_nil hnone, List.isEmpty_nil]
  · intro hempty
    cases hdefault : s.defaultKid with
    | none => rfl
    | some kid =>
      obtain ⟨key, hkey⟩ := h.exists_get? kid hdefault
      rw [get?_eq_none_of_isEmpty hempty] at hkey
      cases hkey

/-- **There is no key that signs exactly if there is no key.** -/
theorem HasDefault.signingKey_eq_keyMissing_iff (h : s.HasDefault) :
    s.signingKey = .error .keyMissing ↔ s.isEmpty = true := by
  constructor
  · intro herr
    refine Bool.of_not_eq_false fun hne => ?_
    obtain ⟨kid, key, hkey, -⟩ := h.exists_signingKey hne
    rw [hkey] at herr
    cases herr
  · intro hempty
    rw [signingKey, h.defaultKid_eq_none_iff.mpr hempty]

theorem HasDefault.issueWith_eq_keyMissing_iff (h : s.HasDefault) (c : Claims) (draw : Draw) :
    Token.issueWith c s draw = .error .keyMissing ↔ s.isEmpty = true := by
  rw [Token.issueWith, Outcome.bind_eq_error, h.signingKey_eq_keyMissing_iff]
  constructor
  · rintro (hempty | ⟨⟨kid, key⟩, -, herr⟩)
    · exact hempty
    · exact absurd herr (Token.issue_ne_keyMissing c key (some kid) draw)
  · exact .inl

/-- **A token is signed with the default key, and names it.** -/
theorem issueWith_eq_ok_iff {c : Claims} {draw : Draw} {token : String} :
    Token.issueWith c s draw = .ok token ↔ Token.checkIssuable c = .ok ()
      ∧ ∃ kid key, s.defaultKid = some kid ∧ s.get? kid = some key
        ∧ token = Token.ofPayload key (Token.complete c (some kid) draw).payload := by
  rw [Token.issueWith, Outcome.bind_eq_ok]
  constructor
  · rintro ⟨⟨kid, key⟩, hkey, hissue⟩
    obtain ⟨hdefault, hget⟩ := signingKey_eq_ok_iff.mp hkey
    obtain ⟨hissuable, htoken⟩ := Token.issue_eq_ok_iff.mp hissue
    exact ⟨hissuable, kid, key, hdefault, hget, htoken⟩
  · rintro ⟨hissuable, kid, key, hdefault, hget, htoken⟩
    exact ⟨(kid, key), signingKey_eq_ok_iff.mpr ⟨hdefault, hget⟩,
      Token.issue_eq_ok_iff.mpr ⟨hissuable, htoken⟩⟩

/-! ## Rotation -/

/-- **What can be done to a set of keys.** -/
inductive Operation where
  | insert (kid : String) (key : TokenKey)
  | insertDefault (kid : String) (key : TokenKey)
  | remove (kid : String)

/-- The set after an operation. -/
def step (s : KeySet) : Operation → KeySet
  | .insert kid key => s.insert kid key
  | .insertDefault kid key => s.insertDefault kid key
  | .remove kid => s.remove kid

/-- **The set after operations.** -/
def run (s : KeySet) (ops : List Operation) : KeySet :=
  ops.foldl step s

theorem Built.step (h : s.Built) (op : Operation) : (s.step op).Built := by
  cases op with
  | insert kid key => exact h.insert kid key
  | insertDefault kid key => exact h.insertDefault kid key
  | remove kid => exact h.remove kid

theorem Built.run (h : s.Built) (ops : List Operation) : (s.run ops).Built := by
  induction ops generalizing s with
  | nil => exact h
  | cons op ops ih => exact ih (h.step op)

/-- **Tokens outlive the rotation of keys.**  Whatever has been put in and taken out, a set without
default is empty, any other one has the default among its keys, and only an empty one cannot sign.
A token names the key that was the default when it was issued: for as long as that key is in the set
under its identifier, or again, the token is read as the claims that it was issued for, and where
there is none under the identifier it is refused. -/
theorem run_keeps_tokens (before : List Operation) :
    let s := KeySet.empty.run before
    (s.defaultKid = none ↔ s.isEmpty = true)
      ∧ (∀ kid, s.defaultKid = some kid → ∃ key, s.get? kid = some key)
      ∧ (s.signingKey = .error .keyMissing ↔ s.isEmpty = true)
      ∧ (∀ c draw, Token.issueWith c s draw = .error .keyMissing ↔ s.isEmpty = true)
      ∧ ∀ c draw token, Token.issueWith c s draw = .ok token → ∃ kid key issued,
        s.defaultKid = some kid ∧ s.get? kid = some key
          ∧ issued = Token.complete c (some kid) draw ∧ issued.keyId = some kid
          ∧ Token.parse token key = .ok issued
          ∧ ∀ after, let s' := s.run after
            (s'.get? kid = some key → Token.parseWith token s' = .ok issued)
              ∧ (s'.get? kid = none →
                (s'.isEmpty = true → Token.parseWith token s' = .error .keyMissing)
                ∧ (s'.isEmpty = false → Token.parseWith token s'
                  = .error (.invalid ("unknown key id " ++ Text.quoted kid)))) := by
  intro s
  have hs : s.HasDefault := (Built.empty.run before).hasDefault
  refine ⟨hs.defaultKid_eq_none_iff, hs.exists_get?, hs.signingKey_eq_keyMissing_iff,
    hs.issueWith_eq_keyMissing_iff, fun c draw token hissue => ?_⟩
  obtain ⟨-, kid, key, hdefault, hget, rfl⟩ := issueWith_eq_ok_iff.mp hissue
  refine ⟨kid, key, _, hdefault, hget, rfl, rfl,
    Token.parse_eq_ok_iff.mpr ⟨_, rfl, Claims.ofPayload?_payload _⟩, fun after => ?_⟩
  refine ⟨fun hkept => ?_, fun hgone => ⟨fun hempty => ?_, fun hne => ?_⟩⟩
  · exact Token.parseWith_eq_ok_iff.mpr (Token.signs_ofPayload (select_some hkept))
  · exact Token.parseWith_ofPayload_eq_error (Token.select_of_isEmpty hempty _)
  · exact Token.parseWith_ofPayload_eq_error (select_of_missing hne hgone)

/-- The second key. -/
def sampleOther : TokenKey := ⟨List.replicate 16 2, by decide⟩

/-- A token under the first key is read while the second one signs, and after the first one has been
taken out and put in again; without it the token is refused, by the second key and by no key. -/
theorem run_keeps_tokens_sample :
    let s := empty.run [.insert "k1" Token.sampleKey]
    ∃ token issued, Token.issueWith (.sample "") s Token.sampleDraw = .ok token
      ∧ issued.keyId = some "k1"
      ∧ Token.parseWith token (s.run [.insertDefault "k2" sampleOther, .remove "k1",
        .insert "k1" Token.sampleKey]) = .ok issued
      ∧ Token.parseWith token (s.run [.insertDefault "k2" sampleOther, .remove "k1"])
        = .error (.invalid ("unknown key id " ++ Text.quoted "k1"))
      ∧ Token.parseWith token (s.run [.remove "k1"]) = .error .keyMissing := by
  intro s
  obtain ⟨-, -, -, -, hissued⟩ := run_keeps_tokens [.insert "k1" Token.sampleKey]
  have hissue : Token.issueWith (.sample "") s Token.sampleDraw = .ok (Token.ofPayload
      Token.sampleKey (Token.complete (.sample "") (some "k1") Token.sampleDraw).payload) :=
    issueWith_eq_ok_iff.mpr ⟨rfl, "k1", Token.sampleKey, rfl, rfl, rfl⟩
  obtain ⟨kid, key, issued, hdefault, hget, -, hkid, -, hafter⟩ := hissued _ _ _ hissue
  obtain rfl : "k1" = kid := Option.some.inj hdefault
  obtain rfl : Token.sampleKey = key := Option.some.inj hget
  refine ⟨_, issued, hissue, hkid, (hafter _).1 ?_, ((hafter _).2 ?_).2 ?_, ((hafter _).2 ?_).1 ?_⟩
  all_goals decide

end KeySet

end ProofLogin
