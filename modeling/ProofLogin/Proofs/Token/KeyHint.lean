import ProofLogin.Proofs.Token.Rotation

/-!
# Proofs/Token/KeyHint — a token names its key before and after it is checked

    payload ──keyHint?──▸ identifier ──select──▸ key ──▸ signature ──ofPayload?──▸ claims
       └─────────────────────────────────────────────────────────────────────────────┘

With a set of keys a payload is read twice: once for the identifier of its key, before anything is
known about it, and once for the claims, when it is known to be signed.  Both readers take the
identifier from the same member of an object (`Claims.keyHint?_of_object`), and an array that is
long enough to be claims is too long to name a key (`Claims.exists_object_of_keyHint?`).  So the
identifier is the one of the claims, and a set accepts what the key that it selects for the claims
accepts (`Token.parseWith_agrees_parse`).
-/

namespace ProofLogin

namespace Claims

open Json (Tree)

variable {payload : Bytes} {c : Claims} {kid : Option String} {members : List (Bytes × Tree)}

/-- The slots that claims are read from: the first three are there, and one of the others says which
key. -/
theorem exists_record?_of_ofJson? {t : Tree} (h : ofJson? t = some c) :
    ∃ userId challenge expiresAt nonce jti vkId paramsVersion keyId version,
      t.record? memberNames = some [some userId, some challenge, some expiresAt, nonce, jti, vkId,
        paramsVersion, keyId, version]
      ∧ Record.withDefault? none (Tree.optional? Tree.text?) keyId = some c.keyId := by
  obtain ⟨slots, hslots, h⟩ := Option.bind_eq_some_iff.mp h
  split at h
  case h_2 => cases h
  case h_1 =>
    obtain ⟨_, huser, h⟩ := Option.bind_eq_some_iff.mp h
    obtain ⟨_, hchallenge, h⟩ := Option.bind_eq_some_iff.mp h
    obtain ⟨_, hend, h⟩ := Option.bind_eq_some_iff.mp h
    simp only [Option.bind_eq_bind, Option.bind_eq_some_iff, Option.pure_def,
      Option.some.injEq] at h
    obtain ⟨_, -, _, -, _, -, _, -, _, hkid, _, -, rfl⟩ := h
    obtain ⟨userId, rfl, -⟩ := Option.bind_eq_some_iff.mp huser
    obtain ⟨challenge, rfl, -⟩ := Option.bind_eq_some_iff.mp hchallenge
    obtain ⟨expiresAt, rfl, -⟩ := Option.bind_eq_some_iff.mp hend
    exact ⟨_, _, _, _, _, _, _, _, _, hslots, hkid⟩

/-- **The key that an object names is the one of its claims.** -/
theorem keyHint?_of_object (hobject : Tree.parse? payload = some (.object members))
    (h : ofPayload? payload = some c) : keyHint? payload = some c.keyId := by
  rw [ofPayload?, hobject, Option.bind_some] at h
  obtain ⟨_, _, _, _, _, _, _, keyId, _, hslots, hkid⟩ := exists_record?_of_ofJson? h
  have hsub : ["kid"] ⊆ memberNames := by decide
  obtain ⟨g, hg, hpart⟩ := Tree.members?_of_subset (by decide) (by decide) hsub hslots
  obtain rfl : keyId = g "kid" := by
    simp only [memberNames, List.map_cons, List.map_nil, List.cons.injEq] at hg
    exact hg.2.2.2.2.2.2.2.1
  rw [keyHint?, hobject, Option.bind_eq_bind, Option.bind_some, Tree.record?, hpart]
  exact hkid

/-- **What names a key and spells claims is an object**: an array that spells claims has a second
item at least, and one that names a key has a single item. -/
theorem exists_object_of_keyHint? (hkid : keyHint? payload = some kid)
    (h : ofPayload? payload = some c) :
    ∃ members, Tree.parse? payload = some (.object members) := by
  obtain ⟨t, ht, hkid⟩ := Option.bind_eq_some_iff.mp hkid
  rw [ofPayload?, ht, Option.bind_some] at h
  obtain ⟨userId, challenge, _, _, _, _, _, _, _, hslots, -⟩ := exists_record?_of_ofJson? h
  obtain ⟨slots, hhint, -⟩ := Option.bind_eq_some_iff.mp hkid
  cases t with
  | object members => exact ⟨members, ht⟩
  | array items =>
    obtain _ | ⟨first, _ | ⟨second, rest⟩⟩ := items
    · cases hslots
    · cases hslots
    · cases hhint
  | _ => cases hslots

end Claims

/-- **The key that is selected** is the one under the identifier, or under the default one. -/
theorem KeySet.select_eq_ok_iff {s : KeySet} {kid? : Option String} {key : TokenKey} :
    s.select kid? = .ok key ↔ ∃ kid, kid?.or s.defaultKid = some kid ∧ s.get? kid = some key := by
  cases kid? with
  | some kid =>
    simp only [Option.some_or, Option.some.injEq, exists_eq_left']
    refine ⟨fun h => ?_, select_some⟩
    rw [select, Outcome.ite_error_eq_ok] at h
    cases hget : s.get? kid with
    | none =>
      simp only [hget] at h
      cases h.2
    | some key' =>
      simp only [hget] at h
      rw [Except.ok.inj h.2]
  | none =>
    rw [select, Outcome.ite_error_eq_ok, Option.none_or]
    constructor
    · rintro ⟨-, h⟩
      obtain ⟨⟨kid, key⟩, hsigning, rfl⟩ := Outcome.map_eq_ok.mp h
      exact ⟨kid, signingKey_eq_ok_iff.mp hsigning⟩
    · rintro ⟨kid, hkid, hget⟩
      refine ⟨fun hempty => ?_, Outcome.map_eq_ok.mpr
        ⟨(kid, key), signingKey_eq_ok_iff.mpr ⟨hkid, hget⟩, rfl⟩⟩
      rw [get?_eq_none_of_isEmpty hempty] at hget
      cases hget

namespace Token

/-! ## One key and a set of keys -/

/-- The payload of the token is an object, whether it is signed or not. -/
def HoldsObject (token : String) : Prop :=
  ∃ payload tag members, split token = .ok (payload, tag)
    ∧ Json.Tree.parse? payload = some (.object members)

variable {token : String} {keys : KeySet} {c : Claims} {payload tag : Bytes}

/-- **What a set of keys accepts** is an object, names the key of its claims, and is accepted by
that key alone. -/
theorem exists_parse_of_parseWith (h : parseWith token keys = .ok c) :
    ∃ payload tag members key, split token = .ok (payload, tag)
      ∧ Json.Tree.parse? payload = some (.object members)
      ∧ Claims.keyHint? payload = some c.keyId ∧ keys.select c.keyId = .ok key
      ∧ parse token key = .ok c := by
  obtain ⟨payload, _, kid, key, hsplit, hkid, hselect, rfl, hc⟩ := parseWith_eq_ok_iff.mp h
  obtain ⟨members, hobject⟩ := Claims.exists_object_of_keyHint? hkid hc
  have hkid' := Claims.keyHint?_of_object hobject hc
  obtain rfl := Option.some.inj (hkid.symm.trans hkid')
  exact ⟨payload, _, members, key, hsplit, hobject, hkid', hselect,
    parse_eq_ok_iff.mpr ⟨payload, split_eq_ok_iff.mp hsplit, hc⟩⟩

/-- **What one key accepts is accepted by every set that selects it**, if it is an object. -/
theorem parseWith_of_parse {key : TokenKey} (hobject : HoldsObject token)
    (hselect : keys.select c.keyId = .ok key) (h : parse token key = .ok c) :
    parseWith token keys = .ok c := by
  obtain ⟨payload, _, members, hsplit, hobject⟩ := hobject
  obtain ⟨payload', rfl, hc⟩ := parse_eq_ok_iff.mp h
  obtain ⟨rfl, rfl⟩ := Prod.mk.inj (Except.ok.inj (hsplit.symm.trans (split_ofPayload key _)))
  exact parseWith_eq_ok_iff.mpr ⟨payload, _, c.keyId, key, hsplit,
    Claims.keyHint?_of_object hobject hc, hselect, rfl, hc⟩

/-- **A set of keys and the one key of a token agree.**  What a set accepts holds an object, and is
accepted by the key that the set holds under the identifier of the claims, or under the default
identifier if they name none; what holds an object and is accepted by that key is accepted by the
set.  The identifier that was read before the signature was checked is the one of the claims. -/
theorem parseWith_agrees_parse (token : String) (keys : KeySet) (c : Claims) :
    (parseWith token keys = .ok c ↔ HoldsObject token
      ∧ ∃ kid key, c.keyId.or keys.defaultKid = some kid ∧ keys.get? kid = some key
        ∧ parse token key = .ok c)
      ∧ ∀ payload tag, parseWith token keys = .ok c → split token = .ok (payload, tag) →
        Claims.keyHint? payload = some c.keyId := by
  refine ⟨⟨fun h => ?_, ?_⟩, fun payload tag h hsplit => ?_⟩
  · obtain ⟨payload, tag, members, key, hsplit, hobject, -, hselect, hparse⟩ :=
      exists_parse_of_parseWith h
    obtain ⟨kid, hkid, hget⟩ := KeySet.select_eq_ok_iff.mp hselect
    exact ⟨⟨payload, tag, members, hsplit, hobject⟩, kid, key, hkid, hget, hparse⟩
  · rintro ⟨hobject, kid, key, hkid, hget, hparse⟩
    exact parseWith_of_parse hobject (KeySet.select_eq_ok_iff.mpr ⟨kid, hkid, hget⟩) hparse
  · obtain ⟨payload', tag', -, -, hsplit', -, hkid, -⟩ := exists_parse_of_parseWith h
    obtain ⟨rfl, rfl⟩ := Prod.mk.inj (Except.ok.inj (hsplit.symm.trans hsplit'))
    exact hkid

/-! ## Two payloads that no service issues -/

/-- An object in no order of its own, with an unknown member, and with an escape in the name of the
member for the key. -/
def oddPayload : Bytes :=
  Utf8.encode
    "\x7b\"x\":[null],\"k\\u0069d\":\"k2\",\"user_id\":\"a\",\"exp\":2,\"challenge\":1\x7d"

/-- Claims as an array, without the members that may be missing. -/
def listPayload : Bytes :=
  Utf8.encode "[\"a\",1,2]"

/-- What the object says. -/
def oddClaims : Claims :=
  { Claims.of "a" 1 2 with keyId := some "k2" }

theorem ofPayload?_oddPayload : Claims.ofPayload? oddPayload = some oddClaims := by
  decide +kernel

/-- With a set the object is read as by its key, which is not the default one; the array is read by
the default key alone. -/
theorem parseWith_agrees_parse_sample :
    let keys := (KeySet.single "k1" KeySet.sampleOther).insert "k2" sampleKey
    parseWith (ofPayload sampleKey oddPayload) keys = .ok oddClaims
      ∧ Claims.keyHint? oddPayload = some (some "k2")
      ∧ parse (ofPayload KeySet.sampleOther listPayload) KeySet.sampleOther = .ok (.of "a" 1 2)
      ∧ parseWith (ofPayload KeySet.sampleOther listPayload) keys ≠ .ok (.of "a" 1 2) := by
  intro keys
  have hsplit := split_ofPayload sampleKey oddPayload
  have hobject : HoldsObject (ofPayload sampleKey oddPayload) := ⟨_, _, _, hsplit, rfl⟩
  have hparse : parse (ofPayload sampleKey oddPayload) sampleKey = .ok oddClaims :=
    parse_eq_ok_iff.mpr ⟨oddPayload, rfl, ofPayload?_oddPayload⟩
  obtain ⟨hagree, hhint⟩ := parseWith_agrees_parse (ofPayload sampleKey oddPayload) keys oddClaims
  have haccepted := hagree.mpr ⟨hobject, "k2", sampleKey, rfl, by decide, hparse⟩
  refine ⟨haccepted, hhint _ _ haccepted hsplit,
    parse_eq_ok_iff.mpr ⟨listPayload, rfl, by decide⟩, fun h => ?_⟩
  obtain ⟨⟨payload, tag, members, hlist, hmembers⟩, -⟩ :=
    (parseWith_agrees_parse _ keys (.of "a" 1 2)).1.mp h
  obtain ⟨rfl, -⟩ := Prod.mk.inj
    (Except.ok.inj (hlist.symm.trans (split_ofPayload KeySet.sampleOther listPayload)))
  cases hmembers

end Token

end ProofLogin
