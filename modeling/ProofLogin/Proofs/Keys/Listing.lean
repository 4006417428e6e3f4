import ProofLogin.Keys.Rotation
import ProofLogin.Proofs.Chronology
import ProofLogin.Proofs.Keys.History
import ProofLogin.Proofs.Ordered

/-!
# Proofs/Keys/Listing — a listing does not tell in which order keys were registered

    versions ──unmarked──▸ contents ──sort──▸ ──marked──▸ list
                  operation │                      ▲
                            ▼                      │
                         contents            active name

What a registry holds, its marks apart, is a list of versions (`KeyRegistry.contents`); an operation
changes it, and the name of the active key, without looking at the marks
(`History.contents_step`), and in the same way whatever the order of the list is.  The marks are
those of the active name, so that contents and name determine the listing (`InOrder.list_eq`).
-/

namespace ProofLogin

/-! ## The order of versions -/

namespace KeyVersion

variable {u v w : KeyVersion}

/-- **Older versions come first, versions of one moment in the order of their names.** -/
theorem before_iff : v.before w = true ↔ v.createdAt < w.createdAt
    ∨ v.createdAt = w.createdAt ∧ v.vkId.digest.toBytes < w.vkId.digest.toBytes := by
  rw [before, Fingerprint.before, Bool.or_eq_true, Bool.and_eq_true, decide_eq_true_iff,
    decide_eq_true_iff, Bytes.before_iff]

theorem before_trans (huv : u.before v = true) (hvw : v.before w = true) :
    u.before w = true := by
  rw [before_iff] at *
  obtain huv | ⟨huv, hname⟩ := huv
  · obtain hvw | ⟨hvw, -⟩ := hvw
    · exact .inl (lt_trans huv hvw)
    · exact .inl (hvw ▸ huv)
  · obtain hvw | ⟨hvw, hname'⟩ := hvw
    · exact .inl (huv ▸ hvw)
    · exact .inr ⟨huv.trans hvw, Std.lt_trans hname hname'⟩

theorem before_asymm (h : v.before w = true) : w.before v = false := by
  rw [← Bool.not_eq_true]
  intro h'
  obtain hlt | ⟨-, hname⟩ := before_iff.mp (before_trans h h')
  · exact lt_irrefl _ hlt
  · exact List.lt_irrefl _ hname

/-- **Of two names one comes first**, so that versions of different names are never on a par. -/
theorem before_total (hne : v.vkId ≠ w.vkId) : v.before w = true ∨ w.before v = true := by
  rw [before_iff, before_iff]
  obtain hlt | heq | hgt := lt_trichotomy v.createdAt w.createdAt
  · exact .inl (.inl hlt)
  · obtain hlt | hname | hgt :=
      Std.lt_trichotomy v.vkId.digest.toBytes w.vkId.digest.toBytes
    · exact .inl (.inr ⟨heq, hlt⟩)
    · exact absurd (congrArg Fingerprint.mk (Bytes32.ext hname)) hne
    · exact .inr (.inr ⟨heq.symm, hgt⟩)
  · exact .inr (.inl hgt)

theorem pairwise_before_total {vs : List KeyVersion} (hn : (vs.map vkId).Nodup) :
    vs.Pairwise fun v w => v.before w = true ∨ w.before v = true :=
  (List.pairwise_map.mp hn).imp before_total

/-! ## Marks -/

/-- A version without its mark. -/
def unmarked (v : KeyVersion) : KeyVersion := { v with isActive := false }

/-- A version with the mark that it has where a name is the active one. -/
def marked (active : Option Fingerprint) (v : KeyVersion) : KeyVersion :=
  { v with isActive := decide (active = some v.vkId) }

@[simp] theorem before_unmarked (v w : KeyVersion) :
    v.unmarked.before w.unmarked = v.before w :=
  rfl

@[simp] theorem before_marked (active : Option Fingerprint) (v w : KeyVersion) :
    (marked active v).before (marked active w) = v.before w :=
  rfl

end KeyVersion

namespace KeyRegistry

variable {r r' : KeyRegistry} {k : Fingerprint} {now : Instant} {s : RotationSchedule}

/-- **What a registry holds**, the marks apart. -/
def contents (r : KeyRegistry) : List KeyVersion :=
  r.versions.map KeyVersion.unmarked

theorem map_vkId_contents (r : KeyRegistry) :
    r.contents.map KeyVersion.vkId = r.versions.map KeyVersion.vkId :=
  List.map_map

theorem exists_find?_iff :
    (∃ v, r.find? k = some v) ↔ k ∈ r.contents.map KeyVersion.vkId := by
  rw [← not_iff_not, ← Option.ne_none_iff_exists', not_not, find?_eq_none_iff, map_vkId_contents,
    List.mem_map]
  simp only [not_exists, not_and]

/-- The listing without its marks. -/
theorem map_unmarked_list (r : KeyRegistry) :
    r.list.map KeyVersion.unmarked = Ordered.sort KeyVersion.before r.contents :=
  (Ordered.sort_map _ KeyVersion.before_unmarked r.versions).symm

/-- A look does not see the marks. -/
theorem checkExpiration_eq (r : KeyRegistry) (s : RotationSchedule) (now : Instant) :
    r.checkExpiration s now = (Ordered.sort KeyVersion.before r.contents).filterMap
      fun v => v.expiryEvent? s.lead now := by
  rw [← map_unmarked_list, List.filterMap_map]
  rfl

namespace InOrder

theorem versions_eq (hr : r.InOrder) :
    r.versions = r.contents.map (KeyVersion.marked r.active) := by
  rw [contents, List.map_map]
  refine (List.map_id'' (fun v => rfl) _).symm.trans (List.map_congr_left fun v hv => ?_)
  change v = { v with isActive := decide (r.active = some v.vkId) }
  rw [← hr.isActive_eq v hv]

/-- **The listing is that of the contents, with the mark of the active name.** -/
theorem list_eq (hr : r.InOrder) : r.list
    = (Ordered.sort KeyVersion.before r.contents).map (KeyVersion.marked r.active) := by
  rw [list, hr.versions_eq]
  exact Ordered.sort_map _ (KeyVersion.before_marked r.active) r.contents

theorem pairwise_list (hr : r.InOrder) : r.list.Pairwise fun v w => v.before w = true :=
  Ordered.pairwise_sort KeyVersion.before_trans (KeyVersion.pairwise_before_total hr.nodup)

theorem mem_list_iff (hr : r.InOrder) {v : KeyVersion} :
    v ∈ r.list ↔ r.find? v.vkId = some v := by
  rw [list, (Ordered.sort_perm _ _).mem_iff]
  exact ⟨find?_of_mem hr.nodup, List.mem_of_find?_eq_some⟩

/-- **However the versions are kept and sorted, the listing is the same.** -/
theorem eq_list_of_sorted (hr : r.InOrder) {vs : List KeyVersion} (hperm : vs.Perm r.versions)
    (hsorted : vs.Pairwise fun v w => w.before v = false) : vs = r.list := by
  have hn : (vs.map KeyVersion.vkId).Nodup := (hperm.map _).nodup_iff.mpr hr.nodup
  have hstrict : vs.Pairwise fun v w => v.before w = true := by
    refine ((KeyVersion.pairwise_before_total hn).and hsorted).imp fun ⟨htotal, hnot⟩ => ?_
    exact htotal.resolve_right (Bool.not_eq_true _ ▸ hnot)
  exact Ordered.eq_of_perm_of_sorted KeyVersion.before_asymm hstrict hr.pairwise_list
    (hperm.trans (Ordered.sort_perm _ _).symm)

end InOrder

/-- **Registries with the same contents have the same sorted contents.** -/
theorem sort_contents_eq (hr : r.InOrder) (hperm : r.contents.Perm r'.contents) :
    Ordered.sort KeyVersion.before r.contents = Ordered.sort KeyVersion.before r'.contents :=
  Ordered.sort_of_perm KeyVersion.before_asymm KeyVersion.before_trans
    (KeyVersion.pairwise_before_total (r.map_vkId_contents ▸ hr.nodup)) hperm

/-! ## What operations do to the contents -/

namespace Operation

/-- **The contents after an operation.** -/
def onContents (grace : Period) (vs : List KeyVersion) : Operation → List KeyVersion
  | .register v => if v.vkId ∈ vs.map KeyVersion.vkId then vs else v.unmarked :: vs
  | .setActive _ => vs
  | .deprecateAt k moment => vs.map fun v =>
    if v.vkId = k then { v with expiresAt := some (moment.after grace) } else v

/-- **The active name after an operation** on a registry with some contents. -/
def onActive (vs : List KeyVersion) (active : Option Fingerprint) :
    Operation → Option Fingerprint
  | .register v => active.or (some v.vkId)
  | .setActive k => if k ∈ vs.map KeyVersion.vkId then some k else active
  | .deprecateAt .. => active

variable {vs ws : List KeyVersion}

theorem onContents_perm (op : Operation) (grace : Period) (h : vs.Perm ws) :
    (op.onContents grace vs).Perm (op.onContents grace ws) := by
  cases op with
  | register v =>
    simp only [onContents, (h.map KeyVersion.vkId).mem_iff]
    split
    · exact h
    · exact h.cons _
  | setActive k => exact h
  | deprecateAt k moment => exact h.map _

theorem onActive_of_perm (op : Operation) (active : Option Fingerprint) (h : vs.Perm ws) :
    op.onActive vs active = op.onActive ws active := by
  cases op with
  | register v => rfl
  | setActive k => simp only [onActive, (h.map KeyVersion.vkId).mem_iff]
  | deprecateAt k moment => rfl

end Operation

namespace History

variable {h h' : History}

/-- A version that is refused would not have become active either, as some key is already. -/
theorem contents_register (hr : h.registry.InOrder) (v : KeyVersion) :
    let op := Operation.register v
    (h.step op).registry.contents = op.onContents h.registry.grace h.registry.contents
      ∧ (h.step op).registry.active = op.onActive h.registry.contents h.registry.active := by
  intro op
  cases hv : h.registry.find? v.vkId with
  | none =>
    have hok : op.outcome h.registry = .ok (_, none) :=
      (Operation.outcome_register _ v).trans
        (congrArg (Except.map fun r => (r, none)) (register_eq_ok_iff.mpr ⟨hv, rfl⟩))
    have hnew : v.vkId ∉ h.registry.contents.map KeyVersion.vkId := by
      rw [← exists_find?_iff, hv]
      exact fun ⟨_, h⟩ => nomatch h
    rw [step_registry hok]
    exact ⟨(if_neg hnew).symm, rfl⟩
  | some u =>
    have herr : op.outcome h.registry = .error (.alreadyRegistered v.vkId) := by
      rw [Operation.outcome_register, register_eq, hv]
      rfl
    obtain ⟨w, -, hactive⟩ :=
      hr.exists_active (List.ne_nil_of_mem (List.mem_of_find?_eq_some hv))
    rw [step_eq_self herr, hactive]
    exact ⟨(if_pos (exists_find?_iff.mp ⟨u, hv⟩)).symm, rfl⟩

theorem contents_setActive (hr : h.registry.InOrder) (k : Fingerprint) :
    let op := Operation.setActive k
    (h.step op).registry.contents = h.registry.contents
      ∧ (h.step op).registry.active = op.onActive h.registry.contents h.registry.active := by
  intro op
  match hop : op.outcome h.registry with
  | .ok (r, e?) =>
    obtain ⟨⟨v, hv, rfl⟩, hactive⟩ := hr.setActive_eq_ok hop
    rw [step_registry hop, hactive]
    exact ⟨List.map_map, (if_pos (exists_find?_iff.mp ⟨v, find?_of_mem hr.nodup hv⟩)).symm⟩
  | .error err =>
    have hnone : k ∉ h.registry.contents.map KeyVersion.vkId := by
      rw [← exists_find?_iff]
      rintro ⟨v, hv⟩
      rw [Operation.outcome_setActive, setActive_eq, hv] at hop
      simp only at hop
      split at hop <;> cases hop
    rw [step_eq_self hop]
    exact ⟨rfl, (if_neg hnone).symm⟩

/-- A name that is refused would not have changed any version. -/
theorem contents_deprecateAt (h : History) (k : Fingerprint) (moment : Instant) :
    let op := Operation.deprecateAt k moment
    (h.step op).registry.contents = op.onContents h.registry.grace h.registry.contents
      ∧ (h.step op).registry.active = h.registry.active := by
  intro op
  cases hv : h.registry.find? k with
  | none =>
    have herr : op.outcome h.registry = .error (.notFound k) := by
      rw [Operation.outcome_deprecateAt, deprecateAt_eq, hv]
      rfl
    have hother : ∀ v ∈ h.registry.contents, v.vkId ≠ k := by
      rintro v hmem rfl
      obtain ⟨u, hu⟩ := exists_find?_iff.mpr (List.mem_map_of_mem hmem)
      cases hv.symm.trans hu
    rw [step_eq_self herr]
    refine ⟨Eq.symm ?_, rfl⟩
    exact (List.map_congr_left fun v hmem => if_neg (hother v hmem)).trans (List.map_id' _)
  | some u =>
    have hok : op.outcome h.registry = .ok (h.registry.modify k fun v =>
        { v with expiresAt := some (moment.after h.registry.grace) }, none) := by
      rw [Operation.outcome_deprecateAt, deprecateAt_eq_ok_iff.mpr ⟨⟨u, hv⟩, rfl, rfl⟩]
      rfl
    rw [step_registry hok]
    refine ⟨?_, rfl⟩
    simp only [op, Operation.onContents, contents, modify, List.map_map]
    refine List.map_congr_left fun v _ => ?_
    change KeyVersion.unmarked (if v.vkId = k then _ else v) = if v.vkId = k then _ else _
    split <;> rfl

/-- **An operation changes the contents and the active name, and looks at nothing else.** -/
theorem contents_step (hr : h.registry.InOrder) (op : Operation) :
    (h.step op).registry.contents = op.onContents h.registry.grace h.registry.contents
      ∧ (h.step op).registry.active = op.onActive h.registry.contents h.registry.active := by
  cases op with
  | register v => exact contents_register hr v
  | setActive k => exact contents_setActive hr k
  | deprecateAt k moment => exact contents_deprecateAt h k moment

/-- **The order of the contents does not matter to what a run makes of them**, nor to which name it
leaves active: both runs take the same steps, and none depends on the order. -/
theorem contents_run_perm (hr : h.registry.InOrder) (hr' : h'.registry.InOrder)
    (hgrace : h.registry.grace = h'.registry.grace)
    (hperm : h.registry.contents.Perm h'.registry.contents) (ops : List Operation) :
    (h.run ops).registry.contents.Perm (h'.run ops).registry.contents
      ∧ (h.registry.active = h'.registry.active →
        (h.run ops).registry.active = (h'.run ops).registry.active) := by
  induction ops generalizing h h' with
  | nil => exact ⟨hperm, id⟩
  | cons op ops ih =>
    obtain ⟨hstep, hgrace₁⟩ := inOrder_step hr op
    obtain ⟨hstep', hgrace₁'⟩ := inOrder_step hr' op
    obtain ⟨hcontents, hactive⟩ := contents_step hr op
    obtain ⟨hcontents', hactive'⟩ := contents_step hr' op
    have hgrace₂ : (h.step op).registry.grace = (h'.step op).registry.grace :=
      hgrace₁.trans (hgrace.trans hgrace₁'.symm)
    have hperm₂ : (h.step op).registry.contents.Perm (h'.step op).registry.contents := by
      rw [hcontents, hcontents', hgrace]
      exact op.onContents_perm _ hperm
    obtain ⟨hrun, hactive₂⟩ := ih hstep hstep' hgrace₂ hperm₂
    refine ⟨hrun, fun heq => hactive₂ ?_⟩
    rw [hactive, hactive', heq]
    exact op.onActive_of_perm _ hperm

/-- **An activation leaves the same listing** of registries with the same contents, whatever was
active before and whatever follows. -/
theorem list_run_setActive (hr : h.registry.InOrder) (hr' : h'.registry.InOrder)
    (hgrace : h.registry.grace = h'.registry.grace)
    (hperm : h.registry.contents.Perm h'.registry.contents) {k : Fingerprint}
    (hk : k ∈ h.registry.contents.map KeyVersion.vkId) (later : List Operation) :
    (h.run (.setActive k :: later)).registry.list
      = (h'.run (.setActive k :: later)).registry.list := by
  have hk' : k ∈ h'.registry.contents.map KeyVersion.vkId := (hperm.map _).mem_iff.mp hk
  obtain ⟨hstep, hgrace₁⟩ := inOrder_step hr (.setActive k)
  obtain ⟨hstep', hgrace₁'⟩ := inOrder_step hr' (.setActive k)
  obtain ⟨hcontents, hactive⟩ := contents_setActive hr k
  obtain ⟨hcontents', hactive'⟩ := contents_setActive hr' k
  rw [Operation.onActive, if_pos hk] at hactive
  rw [Operation.onActive, if_pos hk'] at hactive'
  obtain ⟨hrun, hactive₂⟩ := contents_run_perm hstep hstep'
    (hgrace₁.trans (hgrace.trans hgrace₁'.symm)) (by rwa [hcontents, hcontents']) later
  have hfinal : (h.run (.setActive k :: later)).registry.InOrder := (inOrder_run hstep later).1
  have hfinal' : (h'.run (.setActive k :: later)).registry.InOrder := (inOrder_run hstep' later).1
  rw [hfinal.list_eq, hfinal'.list_eq]
  exact congrArg₂ _ (congrArg _ (hactive₂ (hactive.trans hactive'.symm)))
    (sort_contents_eq hfinal hrun)

/-- **Versions of new names are all added.** -/
theorem contents_run_register (hr : h.registry.InOrder) {vs : List KeyVersion}
    (hn : ((vs ++ h.registry.contents).map KeyVersion.vkId).Nodup) :
    (h.run (vs.map .register)).registry.contents.Perm
      (vs.map KeyVersion.unmarked ++ h.registry.contents) := by
  induction vs generalizing h with
  | nil => exact .rfl
  | cons v vs ih =>
    obtain ⟨hstep, -⟩ := inOrder_step hr (.register v)
    obtain ⟨hcontents, -⟩ := contents_step hr (.register v)
    obtain ⟨hnew, hn⟩ := List.nodup_cons.mp hn
    have hadded : (h.step (.register v)).registry.contents
        = v.unmarked :: h.registry.contents := by
      rw [hcontents, Operation.onContents, if_neg]
      exact fun hmem => hnew (List.map_append ▸ List.mem_append_right _ hmem)
    have hn' : ((vs ++ (h.step (.register v)).registry.contents).map KeyVersion.vkId).Nodup := by
      rw [hadded]
      exact (List.perm_middle.map KeyVersion.vkId).nodup_iff.mpr (List.nodup_cons.mpr ⟨hnew, hn⟩)
    refine (ih hstep hn').trans ?_
    rw [hadded]
    exact List.perm_middle

/-- **What has been registered is what a registry holds.** -/
theorem contents_registered (grace : Period) {vs : List KeyVersion}
    (hn : (vs.map KeyVersion.vkId).Nodup) :
    ((start grace).run (vs.map .register)).registry.contents.Perm
      (vs.map KeyVersion.unmarked) := by
  have hnil : vs ++ (start grace).registry.contents = vs := List.append_nil vs
  have hadded := contents_run_register (h := start grace) (.empty grace) (hnil ▸ hn)
  exact hadded.trans (.of_eq (List.append_nil _))

end History

/-! ## Two orders of registration -/

/-- **The listing does not depend on the order of registration.**  The listing of every registry
that can come about has every registered version, strictly increasing by the moment of creation and
the name; and any sorted list of the versions is that listing.  Where the same versions of different
names are registered in two orders and the same operations follow, of which the first makes some key
active, the listings are the same but for the marks, looks at the keys find the same, and if the key
has been registered the marks are the same as well. -/
theorem list_independent_of_order (grace : Period) (ops : List Operation)
    {vs ws : List KeyVersion} (hperm : vs.Perm ws) (hn : (vs.map KeyVersion.vkId).Nodup)
    (k : Fingerprint) (later : List Operation) :
    let reached := ((History.start grace).run ops).registry
    let r := ((History.start grace).run (vs.map .register ++ .setActive k :: later)).registry
    let r' := ((History.start grace).run (ws.map .register ++ .setActive k :: later)).registry
    ((∀ v, v ∈ reached.list ↔ reached.find? v.vkId = some v)
        ∧ (reached.list.Pairwise fun v w => v.createdAt < w.createdAt
          ∨ v.createdAt = w.createdAt ∧ v.vkId.digest.toBytes < w.vkId.digest.toBytes)
        ∧ ∀ us, us.Perm reached.versions → (us.Pairwise fun v w => w.before v = false) →
          us = reached.list)
      ∧ r.list.map KeyVersion.unmarked = r'.list.map KeyVersion.unmarked
      ∧ (∀ s now, r.checkExpiration s now = r'.checkExpiration s now)
      ∧ (k ∈ vs.map KeyVersion.vkId → r.list = r'.list) := by
  intro reached r r'
  have hinOrder := History.inOrder_run_start grace
  have hvs := History.contents_registered grace hn
  have hws := History.contents_registered grace ((hperm.map _).nodup_iff.mp hn)
  have hcontents := hvs.trans ((hperm.map KeyVersion.unmarked).trans hws.symm)
  have hgrace : ((History.start grace).run (vs.map .register)).registry.grace
      = ((History.start grace).run (ws.map .register)).registry.grace :=
    (hinOrder _).2.trans (hinOrder _).2.symm
  have hsplit (us : List KeyVersion) :
      (History.start grace).run (us.map .register ++ .setActive k :: later)
        = ((History.start grace).run (us.map .register)).run (.setActive k :: later) :=
    List.foldl_append
  have hsorted : Ordered.sort KeyVersion.before r.contents
      = Ordered.sort KeyVersion.before r'.contents := by
    refine sort_contents_eq (hinOrder _).1 ?_
    simp only [r, r', hsplit]
    exact (History.contents_run_perm (hinOrder _).1 (hinOrder _).1 hgrace hcontents _).1
  refine ⟨⟨fun v => (hinOrder ops).1.mem_list_iff,
    (hinOrder ops).1.pairwise_list.imp KeyVersion.before_iff.mp,
    fun us => (hinOrder ops).1.eq_list_of_sorted⟩, ?_, fun s now => ?_, fun hk => ?_⟩
  · rw [map_unmarked_list, map_unmarked_list, hsorted]
  · rw [checkExpiration_eq, checkExpiration_eq, hsorted]
  · simp only [r, r', hsplit]
    refine History.list_run_setActive (hinOrder _).1 (hinOrder _).1 hgrace hcontents ?_ later
    rw [(hvs.map KeyVersion.vkId).mem_iff, List.map_map]
    exact hk

/-- Two keys of one moment in either order, of which the second one is made active and the first
one deprecated: the listings are the same, though either key was active at first. -/
theorem list_independent_of_order_sample :
    let later : List Operation := [.deprecateAt (History.sampleName 1) .epoch]
    let run (vs : List KeyVersion) := ((History.start 60).run (vs.map .register
      ++ .setActive (History.sampleName 2) :: later)).registry
    (run [History.sampleVersion 1, History.sampleVersion 2]).list
      = (run [History.sampleVersion 2, History.sampleVersion 1]).list := by
  intro later run
  have hn : ([History.sampleVersion 1, History.sampleVersion 2].map KeyVersion.vkId).Nodup := by
    decide
  obtain ⟨-, -, -, hlist⟩ := list_independent_of_order 60 [] (List.Perm.swap _ _ []) hn
    (History.sampleName 2) later
  exact hlist (by decide)

/-- **A name that is not registered is not made active**: the key that was registered first keeps
the mark, and the listing tells which one it was. -/
theorem list_of_unregistered_activation :
    let run (vs : List KeyVersion) := ((History.start 0).run (vs.map .register
      ++ [.setActive (History.sampleName 3)])).registry
    let vs := [History.sampleVersion 1, History.sampleVersion 2]
    let ws := [History.sampleVersion 2, History.sampleVersion 1]
    (vs.Perm ws ∧ (vs.map KeyVersion.vkId).Nodup) ∧ (run vs).list ≠ (run ws).list := by
  decide

end KeyRegistry

end ProofLogin
