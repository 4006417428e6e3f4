import ProofLogin.Proofs.Encoding.Base64Url
import ProofLogin.Proofs.Json.MemberOrder
import ProofLogin.Token.Basic

/-!
# Proofs/Token/Codec — a token says what was signed

    claims ──payload──▸ octets ──ofPayload──▸ token ──split──▸ octets and signature

Going back along the arrows is `Claims.ofPayload?_payload` and `Token.split_ofPayload`; the key that
a payload names is the one of its claims (`Claims.keyHint?_payload`), so a token is parsed with a
set that selects the key it was signed with (`Token.signs_ofPayload`).  No other text is split into
the same octets (`Token.split_eq_ok_iff`).

The names of the claims are plain, so that a payload lists them in the order of octets and in that
of code units at once (`Claims.membersInOrder_payload`).
-/

namespace ProofLogin

/-! ## Payloads -/

namespace Claims

open Json (Tree Value)

theorem isExact_toJson (c : Claims) : c.toJson.IsExact := by
  rw [toJson]
  cases c.keyId <;> rfl

theorem record?_toJson {names : List String} (hn : names.Nodup) (c : Claims) :
    c.toJson.arranged.tree.record? names = some (names.map fun n =>
      ([("user_id", some (Value.text c.userId)),
        ("challenge", some (.ofUInt64 c.challenge)),
        ("exp", some (.ofInt64 c.expiresAt)),
        ("nonce", some (.text c.nonce)),
        ("jti", some (.text c.jti)),
        ("vk_id", some (.text c.vkId)),
        ("params_version", some (.text c.paramsVersion)),
        ("kid", c.keyId.map .text),
        ("v", some (.text c.version))].lookup n).join.map fun v => v.arranged.tree) :=
  Tree.record?_arranged_objectOf hn (by exact (by decide : memberNames.Nodup))

/-- Claims are read back from their object, with and without a key. -/
@[simp] theorem ofJson?_tree (c : Claims) : ofJson? c.toJson.tree = some c := by
  rw [ofJson?, toJson, Tree.record?_objectOf (by decide) (by rfl)]
  simp [Function.comp_def]

/-- **Claims are read back from their octets.** -/
@[simp] theorem ofPayload?_payload (c : Claims) : ofPayload? c.payload = some c := by
  rw [ofPayload?, payload, Tree.parse?_canonicalBytes c.isExact_toJson, Option.bind_some, ofJson?,
    record?_toJson (by decide)]
  simp [memberNames, List.lookup_cons, Function.comp_def]

/-- **The key that octets name is the one of the claims.** -/
@[simp] theorem keyHint?_payload (c : Claims) : keyHint? c.payload = some c.keyId := by
  rw [keyHint?, payload, Tree.parse?_canonicalBytes c.isExact_toJson, Option.bind_eq_bind,
    Option.bind_some, record?_toJson (by decide)]
  simp [List.lookup_cons, Function.comp_def]

/-- **The members of a payload are in the order of code units** as well, whatever the claims. -/
theorem membersInOrder_payload (c : Claims) :
    ∃ t, Tree.parse? c.payload = some t ∧ t.MembersInOrder Utf16.Before := by
  have hplain : ∀ k ∈ memberNames, Json.IsPlainName k := by decide +kernel
  refine ⟨_, Tree.parse?_canonicalBytes c.isExact_toJson, ?_⟩
  refine Value.membersInOrder_before_objectOf (by exact (by decide : memberNames.Nodup)) hplain ?_
  simp [Value.ofUInt64, Value.ofInt64]

end Claims

/-! ## Tokens -/

namespace Token

theorem toList_append_point (p q : String) :
    (p ++ "." ++ q).toList = p.toList ++ '.' :: q.toList := by
  simp [String.toList_append]

/-- What is before the first point, and the point with what is after it. -/
theorem takeWhile_dropWhile_append_point {cs : List Char} (h : '.' ∉ cs) (r : List Char) :
    (cs ++ '.' :: r).takeWhile (· ≠ '.') = cs
      ∧ (cs ++ '.' :: r).dropWhile (· ≠ '.') = '.' :: r := by
  have hall : ∀ c ∈ cs, decide (c ≠ '.') = true := fun c hc =>
    decide_eq_true fun heq => h (heq ▸ hc)
  rw [List.takeWhile_append_of_pos hall, List.takeWhile_cons_of_neg (by decide), List.append_nil,
    List.dropWhile_append_of_pos hall, List.dropWhile_cons_of_neg (by decide)]
  exact ⟨rfl, rfl⟩

/-- Two texts without a point are told apart by the point between them. -/
theorem segments?_append {p q : String} (hp : '.' ∉ p.toList) (hq : '.' ∉ q.toList) :
    segments? (p ++ "." ++ q) = some (p, q) := by
  have hrest : q.toList.contains '.' = false := by
    rw [Bool.eq_false_iff, ne_eq, List.contains_iff_mem]
    exact hq
  obtain ⟨htake, hdrop⟩ := takeWhile_dropWhile_append_point hp q.toList
  rw [segments?, toList_append_point, hdrop, htake]
  simp only [hrest, Bool.false_eq_true, if_false, String.ofList_toList]

/-- **The segments of a text** are what it is put together from. -/
theorem eq_append_of_segments? {token p q : String} (h : segments? token = some (p, q)) :
    token = p ++ "." ++ q := by
  rw [segments?] at h
  split at h
  case h_1 => cases h
  case h_2 c r hdrop =>
    split at h
    case isTrue => cases h
    case isFalse =>
      cases h
      obtain rfl : c = '.' := by
        have hhead := List.head?_dropWhile_not (· ≠ '.') token.toList
        rw [hdrop] at hhead
        simpa using hhead
      rw [← String.toList_inj, toList_append_point, String.toList_ofList, String.toList_ofList,
        ← hdrop, List.takeWhile_append_dropWhile]

/-- Where the first text has no point, the texts around the first point are known. -/
theorem append_point_inj {p p' q q' : String} (hp : '.' ∉ p.toList) (hp' : '.' ∉ p'.toList)
    (h : p ++ "." ++ q = p' ++ "." ++ q') : p = p' ∧ q = q' := by
  have hchars := congrArg String.toList h
  rw [toList_append_point, toList_append_point] at hchars
  have htake := congrArg (List.takeWhile (· ≠ '.')) hchars
  have hdrop := congrArg (List.dropWhile (· ≠ '.')) hchars
  rw [(takeWhile_dropWhile_append_point hp _).1, (takeWhile_dropWhile_append_point hp' _).1]
    at htake
  rw [(takeWhile_dropWhile_append_point hp _).2, (takeWhile_dropWhile_append_point hp' _).2]
    at hdrop
  exact ⟨String.toList_inj.mp htake, String.toList_inj.mp (List.cons.inj hdrop).2⟩

/-- **A token is split into what it spells**, and nothing else is split. -/
theorem split_eq_ok_iff {token : String} {payload tag : Bytes} : split token = .ok (payload, tag) ↔
    token = Base64Url.encode payload ++ "." ++ Base64Url.encode tag := by
  rw [split]
  constructor
  · intro h
    split at h
    case h_1 => cases h
    case h_2 p q hsegments =>
      split at h
      case h_1 => cases h
      case h_2 payload' hpayload =>
        split at h
        case h_1 => cases h
        case h_2 tag' htag =>
          cases h
          rw [eq_append_of_segments? hsegments, Base64Url.decode_eq_ok_iff.mp hpayload,
            Base64Url.decode_eq_ok_iff.mp htag]
  · rintro rfl
    rw [segments?_append (Base64Url.point_notMem_encode _) (Base64Url.point_notMem_encode _)]
    simp only [Base64Url.decode_encode]

/-- **A token is split into what was signed and the signature.** -/
theorem split_ofPayload (key : TokenKey) (payload : Bytes) :
    split (ofPayload key payload) = .ok (payload, key.sign payload) := by
  rw [split_eq_ok_iff, ofPayload]

/-- No token is empty. -/
theorem ofPayload_ne_empty (key : TokenKey) (payload : Bytes) : ofPayload key payload ≠ "" := by
  intro h
  have := split_ofPayload key payload
  rw [h] at this
  cases this

end Token

end ProofLogin
