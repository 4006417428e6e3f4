import ProofLogin.Proofs.Ordered
import ProofLogin.Token.KeySet

/-!
# Proofs/Token/KeySet — a set that is not empty can sign

Sets come from the empty one by putting keys in and taking keys out (`KeySet.Built`).  Each of these
keeps the default identifier that of a key (`HasDefault`), so a set with keys has a default key, and
selects it by its identifier (`HasDefault.exists_signingKey`).
-/

namespace ProofLogin.KeySet

variable {s : KeySet} {kid other : String} {key : TokenKey}

/-- **The sets that there are.** -/
inductive Built : KeySet → Prop
  | empty : Built .empty
  | insert {s : KeySet} (hs : Built s) (kid : String) (key : TokenKey) : Built (s.insert kid key)
  | insertDefault {s : KeySet} (hs : Built s) (kid : String) (key : TokenKey) :
      Built (s.insertDefault kid key)
  | remove {s : KeySet} (hs : Built s) (kid : String) : Built (s.remove kid)

/-- **The default identifier is that of a key**, and there is one unless there are no keys. -/
structure HasDefault (s : KeySet) : Prop where
  exists_get? : ∀ kid, s.defaultKid = some kid → ∃ key, s.get? kid = some key
  keys_eq_nil : s.defaultKid = none → s.keys = []

/-! ## Looking up -/

theorem get?_insert : (s.insert kid key).get? other
    = if other = kid then some key else s.get? other :=
  Ordered.lookup_put kid key s.keys other

theorem get?_insertDefault : (s.insertDefault kid key).get? other
    = if other = kid then some key else s.get? other :=
  Ordered.lookup_put kid key s.keys other

theorem get?_remove (h : other ≠ kid) : (s.remove kid).get? other = s.get? other :=
  Ordered.lookup_filter_ne h s.keys

/-! ## The default -/

theorem hasDefault_empty : HasDefault .empty :=
  ⟨(fun _ h => nomatch h), fun _ => rfl⟩

theorem HasDefault.insert (h : s.HasDefault) (kid : String) (key : TokenKey) :
    (s.insert kid key).HasDefault := by
  have hdefault : (s.insert kid key).defaultKid = s.defaultKid.or (some kid) := rfl
  constructor
  · intro other hother
    rw [hdefault] at hother
    rw [get?_insert]
    split
    case isTrue => exact ⟨key, rfl⟩
    case isFalse hne =>
      cases hs : s.defaultKid with
      | none =>
        rw [hs] at hother
        exact absurd (Option.some.inj hother).symm hne
      | some kid' =>
        rw [hs] at hother
        exact h.exists_get? other (hs.trans hother)
  · intro hnone
    rw [hdefault] at hnone
    cases hs : s.defaultKid with
    | none =>
      rw [hs] at hnone
      cases hnone
    | some kid' =>
      rw [hs] at hnone
      cases hnone

theorem HasDefault.insertDefault (_ : s.HasDefault) (kid : String) (key : TokenKey) :
    (s.insertDefault kid key).HasDefault := by
  constructor
  · intro other hother
    obtain rfl : kid = other := Option.some.inj hother
    rw [get?_insertDefault, if_pos rfl]
    exact ⟨key, rfl⟩
  · intro hnone
    cases hnone

/-- When the default is taken out, the first key that is left takes its place. -/
theorem HasDefault.remove (h : s.HasDefault) (kid : String) : (s.remove kid).HasDefault := by
  by_cases hkid : s.defaultKid = some kid
  case pos =>
    have hdefault : (s.remove kid).defaultKid = (s.remove kid).keys.head?.map Prod.fst :=
      if_pos hkid
    cases hkeys : (s.remove kid).keys with
    | nil =>
      rw [hkeys] at hdefault
      exact ⟨fun other hother => (by rw [hdefault] at hother; cases hother), fun _ => hkeys⟩
    | cons p ps =>
      rw [hkeys] at hdefault
      refine ⟨fun other hother => ?_, fun hnone => ?_⟩
      · rw [hdefault] at hother
        obtain rfl := Option.some.inj hother
        rw [get?, hkeys, List.lookup_cons, beq_self_eq_true]
        exact ⟨p.2, rfl⟩
      · rw [hdefault] at hnone
        cases hnone
  case neg =>
    have hdefault : (s.remove kid).defaultKid = s.defaultKid := if_neg hkid
    refine ⟨fun other hother => ?_, fun hnone => ?_⟩
    · rw [hdefault] at hother
      have hne : other ≠ kid := fun heq => hkid (heq ▸ hother)
      rw [get?_remove hne]
      exact h.exists_get? other hother
    · rw [hdefault] at hnone
      rw [KeySet.remove, h.keys_eq_nil hnone]
      rfl

/-- **Whatever has been put in and taken out, the default is one of the keys.** -/
theorem Built.hasDefault (h : s.Built) : s.HasDefault := by
  induction h with
  | empty => exact hasDefault_empty
  | insert _ kid key ih => exact ih.insert kid key
  | insertDefault _ kid key ih => exact ih.insertDefault kid key
  | remove _ kid ih => exact ih.remove kid

/-! ## Signing -/

theorem get?_eq_none_of_isEmpty (h : s.isEmpty = true) (kid : String) : s.get? kid = none := by
  rw [get?, List.isEmpty_iff.mp h, List.lookup_nil]

theorem select_some (h : s.get? kid = some key) : s.select (some kid) = .ok key := by
  have hempty : ¬s.isEmpty = true := fun hempty => by
    rw [get?_eq_none_of_isEmpty hempty] at h
    cases h
  rw [select, if_neg hempty]
  simp only [h]

/-- **A set with keys signs with its default key, and selects it by its identifier.** -/
theorem HasDefault.exists_signingKey (h : s.HasDefault) (hne : s.isEmpty = false) :
    ∃ kid key, s.signingKey = .ok (kid, key) ∧ s.select (some kid) = .ok key := by
  cases hdefault : s.defaultKid with
  | none =>
    rw [isEmpty, h.keys_eq_nil hdefault] at hne
    cases hne
  | some kid =>
    obtain ⟨key, hkey⟩ := h.exists_get? kid hdefault
    refine ⟨kid, key, ?_, select_some hkey⟩
    rw [signingKey, hdefault]
    simp only [hkey]

end ProofLogin.KeySet
