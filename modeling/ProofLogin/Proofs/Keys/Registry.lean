import Mathlib.Data.List.Nodup
import ProofLogin.Keys.Registry
import ProofLogin.Proofs.Outcome

/-!
# Proofs/Keys/Registry — which version a registry finds, and how it is kept in order

A registry says twice which of its versions is active: by a name, and by a mark on the version.
`InOrder` says that the two agree; each operation keeps it, so that the active version is always
there and is the only one with a mark (`InOrder.filter_isActive`).
-/

namespace ProofLogin.KeyRegistry

variable {r r' : KeyRegistry} {vkId : Fingerprint} {now : Instant}

theorem vkId_of_find? {v : KeyVersion} (h : r.find? vkId = some v) : v.vkId = vkId := by
  have := List.find?_some h
  exact of_decide_eq_true this

theorem isValidAt_iff_exists : r.isValidAt vkId now = true ↔
    ∃ v, r.find? vkId = some v ∧ v.isExpiredAt now = false := by
  simp only [isValidAt, Option.any_eq_true, Bool.not_eq_true']

theorem exists_find?_of_isValidAt (h : r.isValidAt vkId now = true) :
    ∃ v, r.find? vkId = some v := by
  obtain ⟨v, hv, -⟩ := isValidAt_iff_exists.mp h
  exact ⟨v, hv⟩

/-- **The active version is the one of the active name**, if it is registered. -/
theorem getActive_eq_ok_iff {v : KeyVersion} :
    r.getActive = .ok v ↔ ∃ vkId, r.active = some vkId ∧ r.find? vkId = some v := by
  rw [getActive]
  cases h : r.active with
  | none => simp
  | some vkId =>
    simp only [get, Option.some.injEq, exists_eq_left']
    cases r.find? vkId <;> simp

/-- **A registered key is trusted up to its expiry**, that moment included. -/
theorem isValidAt_iff_of_find? {v : KeyVersion} (h : r.find? vkId = some v) :
    r.isValidAt vkId now = true ↔ ∀ e, v.expiresAt = some e → now ≤ e := by
  rw [isValidAt, h, Option.any_some, Bool.not_eq_true', KeyVersion.isExpiredAt]
  cases v.expiresAt with
  | none => simp
  | some e =>
    simp only [Option.any_some, decide_eq_false_iff_not, Option.some.injEq, forall_eq',
      Instant.not_lt]

theorem isValidAt_eq_false_iff_of_find? {v : KeyVersion} (h : r.find? vkId = some v) :
    r.isValidAt vkId now = false ↔ ∃ e, v.expiresAt = some e ∧ e < now := by
  rw [isValidAt, h, Option.any_some, Bool.not_eq_false', KeyVersion.isExpiredAt]
  cases v.expiresAt <;> simp

/-! ## Versions and their names -/

theorem find?_eq_none_iff : r.find? vkId = none ↔ ∀ v ∈ r.versions, v.vkId ≠ vkId := by
  simp [find?]

/-- Where no name is repeated, every version is found under its name. -/
theorem find?_of_mem (hn : (r.versions.map KeyVersion.vkId).Nodup) {v : KeyVersion}
    (hv : v ∈ r.versions) : r.find? v.vkId = some v := by
  obtain ⟨u, hu⟩ : ∃ u, r.find? v.vkId = some u :=
    Option.ne_none_iff_exists'.mp fun h => find?_eq_none_iff.mp h v hv rfl
  rw [hu, List.inj_on_of_nodup_map hn (List.mem_of_find?_eq_some hu) hv (vkId_of_find? hu)]

/-- Versions that change without changing their names are found as they are changed. -/
theorem find?_map {f : KeyVersion → KeyVersion} (hf : ∀ v, (f v).vkId = v.vkId)
    (active : Option Fingerprint) (k : Fingerprint) :
    find? { r with versions := r.versions.map f, active } k = (r.find? k).map f := by
  have hname : (fun v => decide (v.vkId = k)) ∘ f = fun v => decide (v.vkId = k) :=
    funext fun v => congrArg (fun n => decide (n = k)) (hf v)
  rw [find?, List.find?_map, hname]
  rfl

/-! ## What the operations do -/

/-- An action that begins by reading goes on with the registry that it finds. -/
theorem Action.run_read_bind {α : Type} (next : KeyRegistry → Action α) (h : History) :
    (Action.read >>= next).run.run h = (next h.registry).run.run h :=
  rfl

/-- **Registering**, from its first step to its last one. -/
theorem run_registering (h : History) (v : KeyVersion) :
    (registering v).run.run h = match h.registry.find? v.vkId with
      | some _ => (.error (.alreadyRegistered v.vkId), h)
      | none => (.ok (), { h with registry := { h.registry with
          versions := { v with isActive := h.registry.active.isNone } :: h.registry.versions
          active := h.registry.active.or (some v.vkId) } }) := by
  rw [registering, Action.run_read_bind]
  cases h.registry.find? v.vkId with
  | some u => rfl
  | none =>
    obtain ⟨⟨versions, active, grace⟩, events⟩ := h
    cases active <;> rfl

/-- **Activating.** The active name is written before it is compared; where it is the same, that
leaves the registry as it was. -/
theorem run_activating (h : History) (k : Fingerprint) :
    (activating k).run.run h = match h.registry.find? k with
      | none => (.error (.notFound k), h)
      | some _ =>
        if h.registry.active = some k then (.ok (), h)
        else
          let r := match h.registry.active with
            | none => h.registry
            | some previous => h.registry.modify previous fun v => { v with isActive := false }
          let r := r.modify k fun v => { v with isActive := true }
          (.ok (), ⟨{ r with active := some k }, h.events ++ [.rotation h.registry.active k]⟩) := by
  rw [activating, Action.run_read_bind]
  cases h.registry.find? k with
  | none => rfl
  | some u =>
    obtain ⟨⟨versions, active, grace⟩, events⟩ := h
    by_cases hactive : active = some k
    · simp only [hactive]
      rfl
    · simp only [if_neg hactive]
      cases active <;> rfl

/-- **Deprecating**, from its first step to its last one. -/
theorem run_deprecating (h : History) (k : Fingerprint) :
    (deprecating k now).run.run h = match h.registry.find? k with
      | none => (.error (.notFound k), h)
      | some _ => (.ok (now.after h.registry.grace), { h with
          registry := h.registry.modify k fun v =>
            { v with expiresAt := some (now.after h.registry.grace) } }) := by
  rw [deprecating, Action.run_read_bind]
  cases h.registry.find? k <;> rfl

theorem register_eq (r : KeyRegistry) (v : KeyVersion) :
    r.register v = match r.find? v.vkId with
      | some _ => .error (.alreadyRegistered v.vkId)
      | none => .ok { r with
          versions := { v with isActive := r.active.isNone } :: r.versions
          active := r.active.or (some v.vkId) } := by
  rw [register, Action.outcome, run_registering]
  cases r.find? v.vkId <;> rfl

theorem setActive_eq (r : KeyRegistry) (k : Fingerprint) :
    r.setActive k = match r.find? k with
      | none => .error (.notFound k)
      | some _ =>
        if r.active = some k then .ok (r, none)
        else
          let r' := match r.active with
            | none => r
            | some previous => r.modify previous fun v => { v with isActive := false }
          let r' := r'.modify k fun v => { v with isActive := true }
          .ok ({ r' with active := some k }, some (.rotation r.active k)) := by
  rw [setActive, Action.outcome, run_activating]
  cases r.find? k with
  | none => rfl
  | some u =>
    by_cases hactive : r.active = some k
    · simp only [if_pos hactive]
      rfl
    · simp only [if_neg hactive]
      rfl

theorem deprecateAt_eq (r : KeyRegistry) (k : Fingerprint) (now : Instant) :
    r.deprecateAt k now = match r.find? k with
      | none => .error (.notFound k)
      | some _ => .ok (r.modify k fun v => { v with expiresAt := some (now.after r.grace) },
          now.after r.grace) := by
  rw [deprecateAt, Action.outcome, run_deprecating]
  cases r.find? k <;> rfl

theorem register_eq_ok_iff {v : KeyVersion} : r.register v = .ok r' ↔ r.find? v.vkId = none
    ∧ r' = { r with
        versions := { v with isActive := r.active.isNone } :: r.versions
        active := r.active.or (some v.vkId) } := by
  rw [register_eq]
  cases r.find? v.vkId with
  | none => simp [eq_comm]
  | some u => simp

theorem deprecateAt_eq_ok_iff {e : Instant} : r.deprecateAt vkId now = .ok (r', e) ↔
    (∃ v, r.find? vkId = some v) ∧ e = now.after r.grace
      ∧ r' = r.modify vkId fun v => { v with expiresAt := some e } := by
  rw [deprecateAt_eq]
  cases r.find? vkId with
  | none => simp
  | some u =>
    simp only [Except.ok.injEq, Prod.mk.injEq, Option.some.injEq, exists_eq', true_and]
    constructor
    · rintro ⟨rfl, rfl⟩
      exact ⟨rfl, rfl⟩
    · rintro ⟨rfl, rfl⟩
      exact ⟨rfl, rfl⟩

/-! ## Registries in order -/

/-- **A registry in order**: no name is repeated, a version is marked exactly when its name is the
active one, and one version has the active name unless there is no version at all. -/
structure InOrder (r : KeyRegistry) : Prop where
  nodup : (r.versions.map KeyVersion.vkId).Nodup
  isActive_eq : ∀ v ∈ r.versions, v.isActive = decide (r.active = some v.vkId)
  active_eq : r.versions = [] ∧ r.active = none ∨ ∃ v ∈ r.versions, r.active = some v.vkId

namespace InOrder

theorem empty (grace : Period) : (empty grace).InOrder where
  nodup := .nil
  isActive_eq _ hv := nomatch hv
  active_eq := .inl ⟨rfl, rfl⟩

theorem exists_active (h : r.InOrder) (hne : r.versions ≠ []) :
    ∃ v ∈ r.versions, r.active = some v.vkId :=
  h.active_eq.resolve_left fun h => hne h.1

/-- **The active version is there.** -/
theorem getActive_eq (h : r.InOrder) {v : KeyVersion} (hv : v ∈ r.versions)
    (hactive : r.active = some v.vkId) : r.getActive = .ok v :=
  getActive_eq_ok_iff.mpr ⟨_, hactive, find?_of_mem h.nodup hv⟩

/-- **It is the only one with a mark.** -/
theorem filter_isActive (h : r.InOrder) {v : KeyVersion} (hv : v ∈ r.versions)
    (hactive : r.active = some v.vkId) : r.versions.filter KeyVersion.isActive = [v] := by
  have hmark : ∀ u ∈ r.versions, u.isActive = (u == v) := by
    intro u hu
    rw [h.isActive_eq u hu, hactive, Bool.eq_iff_iff, decide_eq_true_iff, beq_iff_eq,
      Option.some.injEq]
    exact ⟨fun hname => List.inj_on_of_nodup_map h.nodup hu hv hname.symm, fun heq => heq ▸ rfl⟩
  rw [List.filter_congr hmark, List.filter_beq,
    List.count_eq_one_of_mem (List.Nodup.of_map _ h.nodup) hv]
  rfl

theorem exists_getActive_iff (h : r.InOrder) :
    (∃ v, r.getActive = .ok v) ↔ r.versions ≠ [] := by
  constructor
  · rintro ⟨v, hv⟩
    obtain ⟨k, -, hfind⟩ := getActive_eq_ok_iff.mp hv
    exact List.ne_nil_of_mem (List.mem_of_find?_eq_some hfind)
  · intro hne
    obtain ⟨v, hv, hactive⟩ := h.exists_active hne
    exact ⟨v, h.getActive_eq hv hactive⟩

theorem filter_of_getActive (h : r.InOrder) {v : KeyVersion} (hv : r.getActive = .ok v) :
    r.versions.filter KeyVersion.isActive = [v] := by
  obtain ⟨k, hactive, hfind⟩ := getActive_eq_ok_iff.mp hv
  obtain rfl := vkId_of_find? hfind
  exact h.filter_isActive (List.mem_of_find?_eq_some hfind) hactive

/-- The active name is never one that is not registered. -/
theorem getActive_ne (h : r.InOrder) {k : Fingerprint} : r.getActive ≠ .error (.notFound k) := by
  obtain ⟨-, hactive⟩ | ⟨v, hv, hactive⟩ := h.active_eq
  · rw [getActive, hactive]
    exact fun heq => nomatch heq
  · rw [h.getActive_eq hv hactive]
    exact fun heq => nomatch heq

/-- A registered version is as it came, but for its mark. -/
theorem find?_register (h : r.InOrder) {v : KeyVersion} (hr : r.register v = .ok r') :
    r'.find? v.vkId = some { v with isActive := decide (r.versions = []) } := by
  obtain ⟨-, rfl⟩ := register_eq_ok_iff.mp hr
  have hmark : r.active.isNone = decide (r.versions = []) := by
    obtain ⟨hempty, hactive⟩ | ⟨u, hu, hactive⟩ := h.active_eq
    · rw [hactive, hempty]
      rfl
    · rw [hactive, decide_eq_false (List.ne_nil_of_mem hu)]
      rfl
  rw [hmark]
  exact List.find?_cons_of_pos (decide_eq_true rfl)

/-- Versions that change without changing their names stay in order with the right marks. -/
theorem map (h : r.InOrder) {f : KeyVersion → KeyVersion} (hf : ∀ v, (f v).vkId = v.vkId)
    {active : Option Fingerprint}
    (hmark : ∀ v ∈ r.versions, (f v).isActive = decide (active = some v.vkId))
    (hactive : active = r.active ∨ ∃ v ∈ r.versions, active = some v.vkId) :
    InOrder { r with versions := r.versions.map f, active } where
  nodup := by
    have hnames : r.versions.map (KeyVersion.vkId ∘ f) = r.versions.map KeyVersion.vkId :=
      List.map_congr_left fun v _ => hf v
    rw [List.map_map, hnames]
    exact h.nodup
  isActive_eq := by
    intro u hu
    obtain ⟨v, hv, rfl⟩ := List.mem_map.mp hu
    rw [hmark v hv, hf]
  active_eq := by
    have hmem {k : Option Fingerprint} : (∃ v ∈ r.versions, k = some v.vkId) →
        ∃ v ∈ r.versions.map f, k = some v.vkId := by
      rintro ⟨v, hv, hk⟩
      exact ⟨f v, List.mem_map_of_mem hv, by rw [hf, hk]⟩
    obtain rfl | hactive := hactive
    · refine h.active_eq.imp (fun hempty => ?_) hmem
      exact ⟨List.map_eq_nil_iff.mpr hempty.1, hempty.2⟩
    · exact .inr (hmem hactive)

/-- The first version gets the mark; later ones leave it with the version that has it. -/
theorem register (h : r.InOrder) {v : KeyVersion} (hr : r.register v = .ok r') : r'.InOrder := by
  obtain ⟨hnew, rfl⟩ := register_eq_ok_iff.mp hr
  have hnew := find?_eq_none_iff.mp hnew
  have hnodup : (v.vkId :: r.versions.map KeyVersion.vkId).Nodup := by
    rw [List.nodup_cons, List.mem_map]
    exact ⟨fun ⟨u, hu, hname⟩ => hnew u hu hname, h.nodup⟩
  obtain ⟨hempty, hactive⟩ | ⟨u, hu, hactive⟩ := h.active_eq
  · refine ⟨hnodup, ?_, .inr ⟨_, List.mem_cons_self, by rw [hactive]; rfl⟩⟩
    simp [hempty, hactive]
  · refine ⟨hnodup, ?_, .inr ⟨u, List.mem_cons_of_mem _ hu, by rw [hactive]; rfl⟩⟩
    intro w hw
    obtain rfl | hw := List.mem_cons.mp hw
    · simpa [hactive] using hnew u hu
    · simpa [hactive] using h.isActive_eq w hw

/-- In a registry in order, the marks after another key has been made active are those of the
names, whichever key was active before. -/
theorem setActive_eq_ok (h : r.InOrder) {e? : Option RotationEvent}
    (hr : r.setActive vkId = .ok (r', e?)) : (∃ v ∈ r.versions, v.vkId = vkId)
      ∧ r' = { r with
        versions := r.versions.map fun v => { v with isActive := decide (v.vkId = vkId) }
        active := some vkId } := by
  rw [setActive_eq] at hr
  split at hr
  case h_1 => cases hr
  case h_2 v hfind =>
  have hv := List.mem_of_find?_eq_some hfind
  refine ⟨⟨v, hv, vkId_of_find? hfind⟩, ?_⟩
  split at hr
  case isTrue hsame =>
    obtain ⟨rfl, -⟩ := Prod.mk.inj (Except.ok.inj hr)
    have hmark : ∀ u ∈ r.versions, { u with isActive := decide (u.vkId = vkId) } = u := by
      intro u hu
      have hu : u.isActive = decide (u.vkId = vkId) := by
        rw [h.isActive_eq u hu, hsame, decide_eq_decide, Option.some.injEq, eq_comm]
      rw [← hu]
    rw [List.map_congr_left hmark, List.map_id', ← hsame]
  case isFalse hother =>
    obtain ⟨u, hu, hactive⟩ := h.exists_active (List.ne_nil_of_mem hv)
    rw [hactive] at hr hother
    obtain ⟨rfl, -⟩ := Prod.mk.inj (Except.ok.inj hr)
    have hne : u.vkId ≠ vkId := fun heq => hother (congrArg some heq)
    simp only [modify, List.map_map]
    congr 1
    refine List.map_congr_left fun w hw => ?_
    have hw : w.isActive = decide (w.vkId = u.vkId) := by
      rw [h.isActive_eq w hw, hactive, decide_eq_decide, Option.some.injEq, eq_comm]
    by_cases hwu : w.vkId = u.vkId
    · simp [hwu, hne]
    · by_cases hwk : w.vkId = vkId
      · simp only [Function.comp_apply, if_neg hwu, if_pos hwk, decide_eq_true hwk]
      · rw [decide_eq_false hwu] at hw
        simp only [Function.comp_apply, if_neg hwu, if_neg hwk, decide_eq_false hwk, ← hw]

theorem setActive (h : r.InOrder) {e? : Option RotationEvent}
    (hr : r.setActive vkId = .ok (r', e?)) : r'.InOrder := by
  obtain ⟨⟨v, hv, hname⟩, rfl⟩ := h.setActive_eq_ok hr
  refine h.map (f := fun u => { u with isActive := decide (u.vkId = vkId) }) (fun _ => rfl)
    (fun u _ => ?_) (.inr ⟨v, hv, congrArg some hname.symm⟩)
  rw [decide_eq_decide, Option.some.injEq, eq_comm]

theorem deprecateAt (h : r.InOrder) {e : Instant} (hr : r.deprecateAt vkId now = .ok (r', e)) :
    r'.InOrder := by
  obtain ⟨-, -, rfl⟩ := deprecateAt_eq_ok_iff.mp hr
  refine h.map (fun v => ?_) (fun v hv => ?_) (.inl rfl)
  · split <;> rfl
  · rw [← h.isActive_eq v hv]
    split <;> rfl

end InOrder

end ProofLogin.KeyRegistry
