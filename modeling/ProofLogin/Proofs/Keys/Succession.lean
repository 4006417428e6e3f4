import Mathlib.Data.List.Chain
import ProofLogin.Proofs.Keys.History

/-!
# Proofs/Keys/Succession — which key is active, told by the events

    first registered ──event──▸ key ──event──▸ … ──event──▸ active

The first key that is registered is active without an event.  From then on every event names the
active key as the previous one and another one as its successor (`History.leads_step`), and nothing
else changes the active key: who has been told all the events knows it
(`History.active_told_by_events`).
-/

namespace ProofLogin.KeyRegistry

/-! ## Events that lead from key to key -/

/-- **Events lead from one active key to another**: each one begins with the key where the one
before has ended, and makes another key active. -/
inductive Leads : Option Fingerprint → List RotationEvent → Option Fingerprint → Prop
  | nil (active : Option Fingerprint) : Leads active [] active
  | cons {k k' : Fingerprint} {events : List RotationEvent} {active : Option Fingerprint}
      (hne : k ≠ k') (hleads : Leads (some k') events active) :
      Leads (some k) (.rotation (some k) k' :: events) active

namespace Leads

variable {first active active' : Option Fingerprint} {events events' : List RotationEvent}

theorem append (h : Leads first events active) (h' : Leads active events' active') :
    Leads first (events ++ events') active' := by
  induction h with
  | nil => exact h'
  | cons hne _ ih => exact .cons hne (ih h')

/-- Without an active key nothing leads anywhere, so that a key may be supplied. -/
theorem or (h : Leads first events active) (other : Option Fingerprint) :
    Leads (first.or other) events (active.or other) := by
  induction h with
  | nil active => exact .nil _
  | cons hne _ ih => exact .cons hne ih

theorem exists_first {event : RotationEvent} (h : Leads first (event :: events) active) :
    ∃ k, first = some k ∧ event.previous = some k := by
  cases h with
  | cons => exact ⟨_, rfl, rfl⟩

/-- **Each event begins where the one before has ended.** -/
theorem isChain (h : Leads first events active) :
    events.IsChain fun event next => next.previous = some event.vkId := by
  induction h with
  | nil => exact .nil
  | cons _ hleads ih =>
    cases hleads with
    | nil => exact .singleton _
    | cons => exact .cons_cons rfl ih

theorem eq_rotation (h : Leads first events active) :
    ∀ event ∈ events, ∃ k, event = .rotation (some k) event.vkId ∧ k ≠ event.vkId := by
  induction h with
  | nil => exact fun _ hmem => nomatch hmem
  | cons hne _ ih =>
    intro event hmem
    obtain rfl | hmem := List.mem_cons.mp hmem
    · exact ⟨_, rfl, hne⟩
    · exact ih event hmem

/-- **The last event names the active key.** -/
theorem active_eq (h : Leads first events active) :
    active = (events.getLast?.map RotationEvent.vkId).or first := by
  induction h with
  | nil => rfl
  | @cons _ _ events _ _ _ ih =>
    rw [ih, List.getLast?_cons]
    cases events.getLast? <;> rfl

end Leads

/-! ## What an operation tells -/

theorem exists_register_of_eq_nil {r : KeyRegistry} (hempty : r.versions = []) (v : KeyVersion) :
    ∃ r', r.register v = .ok r' := by
  have hnew : r.find? v.vkId = none := by
    rw [find?, hempty]
    rfl
  exact ⟨_, register_eq_ok_iff.mpr ⟨hnew, rfl⟩⟩

/-- **An activation tells of a change**, and of nothing if the key is active already. -/
theorem setActive_tells {r r' : KeyRegistry} {k : Fingerprint} {e? : Option RotationEvent}
    (h : r.setActive k = .ok (r', e?)) : r'.active = some k
      ∧ (r.active = some k ∧ e? = none ∨ r.active ≠ some k ∧ e? = some (.rotation r.active k)) := by
  rw [setActive_eq] at h
  split at h
  case h_1 => cases h
  case h_2 =>
  split at h
  case isTrue hsame =>
    obtain ⟨rfl, rfl⟩ := Prod.mk.inj (Except.ok.inj h)
    exact ⟨hsame, .inl ⟨hsame, rfl⟩⟩
  case isFalse hother =>
    obtain ⟨rfl, rfl⟩ := Prod.mk.inj (Except.ok.inj h)
    exact ⟨rfl, .inr ⟨hother, rfl⟩⟩

namespace Operation

variable {r r' : KeyRegistry} {e? : Option RotationEvent} {op : Operation}

/-- The key that the operation registers, unless there is one of its name. -/
def registers? : Operation → Option Fingerprint
  | .register v => some v.vkId
  | _ => none

/-- **What an operation tells leads to the key that is active after it**, from the one before, or
from the one that it registers as the first. -/
theorem leads_outcome (hr : r.InOrder) (h : op.outcome r = .ok (r', e?)) :
    Leads (r.active.or op.registers?) e?.toList r'.active := by
  cases op with
  | register v =>
    obtain ⟨_, hok, heq⟩ := Outcome.map_eq_ok.mp (outcome_register r v ▸ h)
    obtain ⟨rfl, rfl⟩ := Prod.mk.inj heq
    obtain ⟨-, rfl⟩ := register_eq_ok_iff.mp hok
    exact .nil _
  | setActive k =>
    obtain ⟨⟨v, hv, -⟩, -⟩ := hr.setActive_eq_ok h
    obtain ⟨u, -, hactive⟩ := hr.exists_active (List.ne_nil_of_mem hv)
    obtain ⟨hactive', ⟨hsame, rfl⟩ | ⟨hother, rfl⟩⟩ := setActive_tells h
    · rw [hactive', hsame]
      exact .nil _
    · rw [hactive] at hother
      rw [hactive', hactive]
      exact .cons (fun heq => hother (congrArg some heq)) (.nil _)
  | deprecateAt k moment =>
    obtain ⟨⟨_, _⟩, hok, heq⟩ := Outcome.map_eq_ok.mp (outcome_deprecateAt r k moment ▸ h)
    obtain ⟨rfl, rfl⟩ := Prod.mk.inj heq
    obtain ⟨-, -, rfl⟩ := deprecateAt_eq_ok_iff.mp hok
    change Leads (r.active.or none) [] r.active
    rw [Option.or_none]
    exact .nil _

/-- A registration is refused only where there is an active key already. -/
theorem or_registers?_of_error (hr : r.InOrder) {err : RegistryError}
    (h : op.outcome r = .error err) : r.active.or op.registers? = r.active := by
  cases op with
  | register v =>
    obtain ⟨hempty, -⟩ | ⟨u, -, hactive⟩ := hr.active_eq
    · obtain ⟨r', hok⟩ := exists_register_of_eq_nil hempty v
      rw [outcome_register, hok] at h
      cases h
    · rw [hactive]
      rfl
  | setActive k => exact Option.or_none
  | deprecateAt k moment => exact Option.or_none

end Operation

/-! ## What a history tells -/

/-- **The first key that operations register.** -/
def firstRegistered (ops : List Operation) : Option Fingerprint :=
  ops.findSome? Operation.registers?

theorem firstRegistered_cons (op : Operation) (ops : List Operation) :
    firstRegistered (op :: ops) = op.registers?.or (firstRegistered ops) := by
  rw [firstRegistered, List.findSome?_cons]
  cases op.registers? <;> rfl

namespace History

variable {h : History}

/-- **A step tells what leads from the active key before it to the one after it.** -/
theorem leads_step (hr : h.registry.InOrder) (op : Operation) :
    ∃ events, (h.step op).events = h.events ++ events
      ∧ Leads (h.registry.active.or op.registers?) events (h.step op).registry.active := by
  match hop : op.outcome h.registry with
  | .error err =>
    rw [step_eq_self hop, Operation.or_registers?_of_error hr hop]
    exact ⟨[], (List.append_nil _).symm, .nil _⟩
  | .ok (r, e?) =>
    rw [step_eq hop]
    exact ⟨e?.toList, rfl, Operation.leads_outcome hr hop⟩

/-- **A run tells what leads from the active key before it to the one after it.** -/
theorem leads_run (hr : h.registry.InOrder) (ops : List Operation) :
    ∃ events, (h.run ops).events = h.events ++ events
      ∧ Leads (h.registry.active.or (firstRegistered ops)) events (h.run ops).registry.active := by
  induction ops generalizing h with
  | nil => exact ⟨[], (List.append_nil _).symm, Option.or_none ▸ .nil _⟩
  | cons op ops ih =>
    obtain ⟨events, hevents, hleads⟩ := leads_step hr op
    obtain ⟨later, hlater, hleads'⟩ := ih (inOrder_step hr op).1
    refine ⟨events ++ later, ?_, ?_⟩
    · rw [← List.append_assoc, ← hevents]
      exact hlater
    · rw [firstRegistered_cons, ← Option.or_assoc]
      exact (hleads.or _).append hleads'

/-- Without a registration there is no key. -/
theorem versions_run_eq_nil (grace : Period) {ops : List Operation}
    (hnone : firstRegistered ops = none) : ((start grace).run ops).registry.versions = [] := by
  obtain ⟨hr, -⟩ := inOrder_run (h := start grace) (.empty grace) ops
  obtain ⟨events, -, hleads⟩ := leads_run (h := start grace) (.empty grace) ops
  rw [hnone] at hleads
  obtain ⟨hempty, -⟩ | ⟨v, -, hactive⟩ := hr.active_eq
  · exact hempty
  · rw [hactive] at hleads
    cases hleads

/-- **The first registration succeeds**, and its key is there for good. -/
theorem exists_find?_firstRegistered (grace : Period) {ops : List Operation} {first : Fingerprint}
    (hfirst : firstRegistered ops = some first) :
    ∃ v, ((start grace).run ops).registry.find? first = some v := by
  obtain ⟨before, op, after, rfl, hop, hbefore⟩ := List.findSome?_eq_some_iff.mp hfirst
  cases op with
  | setActive k => cases hop
  | deprecateAt k moment => cases hop
  | register v =>
    obtain rfl := Option.some.inj hop
    let h := (start grace).run before
    obtain ⟨hr, -⟩ : h.registry.InOrder ∧ _ := inOrder_run (h := start grace) (.empty grace) before
    have hempty : h.registry.versions = [] :=
      versions_run_eq_nil grace (List.findSome?_eq_none_iff.mpr hbefore)
    obtain ⟨r, hok⟩ := exists_register_of_eq_nil hempty v
    have houtcome : (Operation.register v).outcome h.registry = .ok (r, none) := by
      rw [Operation.outcome_register, hok]
      rfl
    have hfind := hr.find?_register hok
    rw [← step_registry houtcome] at hfind
    obtain ⟨marked, hlater⟩ := find?_run (inOrder_step hr (.register v)).1 after hfind
    have hrun : (start grace).run (before ++ .register v :: after)
        = (h.step (.register v)).run after := List.foldl_append
    rw [hrun]
    exact ⟨_, hlater⟩

/-- Making the active key active is no step. -/
theorem step_setActive_active (hr : h.registry.InOrder) {k : Fingerprint}
    (hactive : h.registry.active = some k) : h.step (.setActive k) = h := by
  have hfind : ∃ v, h.registry.find? k = some v := by
    obtain ⟨-, hnone⟩ | ⟨v, hv, hname⟩ := hr.active_eq
    · cases hnone.symm.trans hactive
    · obtain rfl := Option.some.inj (hname.symm.trans hactive)
      exact ⟨v, find?_of_mem hr.nodup hv⟩
  obtain ⟨v, hv⟩ := hfind
  have hnothing : h.registry.setActive k = .ok (h.registry, none) := by
    rw [setActive_eq, hv]
    exact if_pos hactive
  rw [step_eq (Operation.outcome_setActive _ _ ▸ hnothing)]
  exact congrArg (History.mk h.registry) (List.append_nil _)

/-- In a registry in order the active version is the one of the active name. -/
theorem map_vkId_getActive {r : KeyRegistry} (hr : r.InOrder) :
    r.getActive.toOption.map KeyVersion.vkId = r.active := by
  obtain ⟨-, hactive⟩ | ⟨v, hv, hactive⟩ := hr.active_eq
  · rw [getActive, hactive]
    rfl
  · rw [hr.getActive_eq hv hactive, hactive]
    rfl

/-- **The events tell which key is active.**  The first one begins with the key that was registered
first, each later one with the key where the one before has ended, and none of them ends where it
begins; the active key is the one where the last event ends, or else the one that was registered
first.  What is refused, and making the active key active, changes nothing and is not told. -/
theorem active_told_by_events (grace : Period) (ops : List Operation) :
    let h := (start grace).run ops
    (∀ event, h.events.head? = some event →
        ∃ first, firstRegistered ops = some first ∧ event.previous = some first)
      ∧ (∀ first, firstRegistered ops = some first → ∃ v, h.registry.find? first = some v)
      ∧ h.events.IsChain (fun event next => next.previous = some event.vkId)
      ∧ (∀ event ∈ h.events, ∃ k, event = .rotation (some k) event.vkId ∧ k ≠ event.vkId)
      ∧ h.registry.getActive.toOption.map KeyVersion.vkId
        = (h.events.getLast?.map RotationEvent.vkId).or (firstRegistered ops)
      ∧ (∀ op err, (op.perform.run.run h).1 = .error err → h.step op = h)
      ∧ ∀ v, h.registry.getActive = .ok v → h.step (.setActive v.vkId) = h := by
  intro h
  have hr : h.registry.InOrder := (inOrder_run (h := start grace) (.empty grace) ops).1
  obtain ⟨events, hevents, hleads⟩ := leads_run (h := start grace) (.empty grace) ops
  change h.events = events at hevents
  change Leads (firstRegistered ops) events h.registry.active at hleads
  rw [hevents, map_vkId_getActive hr]
  refine ⟨fun event hhead => ?_, fun first => exists_find?_firstRegistered grace, hleads.isChain,
    hleads.eq_rotation, hleads.active_eq, fun op err => step_of_run_eq_error,
    fun v hv => step_setActive_active hr ?_⟩
  · obtain ⟨later, rfl⟩ := List.head?_eq_some_iff.mp hhead
    exact hleads.exists_first
  · rw [← map_vkId_getActive hr, hv]
    rfl

/-- The second key takes over and hands back to the first one; a third one is not there. -/
def sampleSuccession : List Operation :=
  [.register (sampleVersion 1), .register (sampleVersion 2), .setActive (sampleName 3),
    .setActive (sampleName 2), .setActive (sampleName 2), .deprecateAt (sampleName 2) .epoch,
    .setActive (sampleName 1)]

/-- Two events tell that the first key is active again. -/
theorem active_told_by_events_sample :
    let h := (start 60).run sampleSuccession
    h.events = [.rotation (some (sampleName 1)) (sampleName 2),
        .rotation (some (sampleName 2)) (sampleName 1)]
      ∧ (∃ first, firstRegistered sampleSuccession = some first ∧ some (sampleName 1) = some first)
      ∧ (∃ v, h.registry.find? (sampleName 1) = some v)
      ∧ h.registry.getActive.toOption.map KeyVersion.vkId = some (sampleName 1)
      ∧ h.step (.register (sampleVersion 1)) = h
      ∧ h.step (.setActive (sampleName 1)) = h := by
  intro h
  obtain ⟨hhead, hthere, -, -, hactive, hrefused, hsame⟩ :=
    active_told_by_events 60 sampleSuccession
  have hevents : h.events = [.rotation (some (sampleName 1)) (sampleName 2),
      .rotation (some (sampleName 2)) (sampleName 1)] := by
    decide
  have hfirst : h.registry.getActive = .ok (sampleVersion 1) := by decide
  refine ⟨hevents, hhead (.rotation (some (sampleName 1)) (sampleName 2)) ?_, hthere _ rfl, ?_,
    hrefused _ (.alreadyRegistered (sampleName 1)) rfl, hsame _ hfirst⟩
  · rw [hevents]
    rfl
  · rw [hactive, hevents]
    rfl

end History

end ProofLogin.KeyRegistry
