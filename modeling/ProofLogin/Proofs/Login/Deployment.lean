import Mathlib.Logic.Function.Basic
import ProofLogin.Proofs.Keys.History
import ProofLogin.Proofs.Login.Verifier

/-!
# Proofs/Login/Deployment — a token is used once, in whatever order calls come

A deployment is what a token service and its verifiers share: the registries and the store of used
tokens.  `Call` is every whole call that reads or changes it, and a run is a sequence of calls whose
times do not decrease.  Each call is done on what is shared, and leaves what it leaves; that a login
leaves the registries alone, and an age check everything, is `Call.run_verifyLogin` and
`Call.run_verifyAge`.

A call forgets only what ended before its time (`Call.mem_entries_run`), and so does a run
(`mem_entries_runAll`).  A call that used a token up has left its identifier in the store
(`Records.mem_entries`); by the time the identifier is forgotten the token has ended, and an ended
token is refused before the store is asked (`no_second_use`).
-/

namespace ProofLogin

/-- **A verifier over a token service**, with a proof system of its own. -/
structure TokenService.Verifier (s : TokenService) where
  system : ProofSystem
  verifier : LoginVerifier system
  tokens_eq : verifier.tokens = s

/-- **What the calls share**: the registries that verifiers trust, by their numbers, and the store
of used tokens. -/
structure Deployment where
  registries : Nat → KeyRegistry
  store : ReplayStore

/-- **A check under the registry of a number**: its answer, and the deployment after it. -/
def Deployment.check {α : Type} (d : Deployment) (registry : Nat) (c : Check α) :
    Except LoginError α × Deployment :=
  let (result, shared) := c.run.run ⟨d.registries registry, d.store⟩
  (result, ⟨Function.update d.registries registry shared.registry, shared.store⟩)

/-- **A whole call** to a token service, to a verifier over it, to a registry or to the store.  A
verifier is called with the number of its registry. -/
inductive Call (s : TokenService) where
  | issue (c : Claims) (draw : Draw)
  | issueFor (userId vkId : String) (now : Int64) (draw : Draw)
  | issueChallenge (v : s.Verifier) (registry : Nat) (userId : String) (now : Int64) (draw : Draw)
  | validate (token : String) (now : Int64) (vkId : String)
  | consume (token : String) (now : Int64) (vkId : String)
  | verifyLogin (v : s.Verifier) (registry : Nat) (token : String) (e : Envelope)
      (userId : String) (stored : Commitment) (now : Int64)
  | verifyAge (v : s.Verifier) (registry : Nat) (e : Envelope) (moment : Instant)
  | manage (registry : Nat) (operation : KeyRegistry.Operation)
  | cleanup (now : Int64)

/-- What a call answers. -/
inductive Answer where
  | token (result : Except LoginError String)
  | issued (result : Except LoginError IssuedChallenge)
  | claims (result : Except LoginError Claims)
  | age (result : Except LoginError Unit)
  | managed (result : Except RegistryError Unit)
  | cleaned (forgotten : Nat)

namespace Call

variable {s : TokenService}

/-- The time that a call is given.  The moment of an age check, and the one from which a key is
deprecated, need not be in the order of the calls. -/
def time? : Call s → Option Int64
  | .issue .. => none
  | .issueFor _ _ now _ => some now
  | .issueChallenge _ _ _ now _ => some now
  | .validate _ now _ => some now
  | .consume _ now _ => some now
  | .verifyLogin _ _ _ _ _ _ now => some now
  | .verifyAge .. => none
  | .manage .. => none
  | .cleanup now => some now

/-- **The answer of a call, and the deployment after it.** -/
def run (d : Deployment) : Call s → Answer × Deployment
  | .issue c draw => (.token (s.issue c draw), d)
  | .issueFor userId vkId now draw => (.issued (s.issueFor userId vkId now draw), d)
  | .issueChallenge v registry userId now draw =>
    (.issued (v.verifier.issueChallenge (d.registries registry) userId now draw), d)
  | .validate token now vkId => (.claims (s.validate token now vkId), d)
  | .consume token now vkId => match s.consume d.store token now vkId with
    | .error err => (.claims (.error err), d)
    | .ok (c, store) => (.claims (.ok c), { d with store })
  | .verifyLogin v registry token e userId stored now =>
    let (result, d) := d.check registry (v.verifier.checkLogin token e userId stored now)
    (.claims result, d)
  | .verifyAge v registry e moment =>
    let (result, d) := d.check registry (v.verifier.checkAge e moment)
    (.age result, d)
  | .manage registry operation =>
    let (result, h) := operation.perform.run.run ⟨d.registries registry, []⟩
    (.managed result, { d with registries := Function.update d.registries registry h.registry })
  | .cleanup now =>
    (.cleaned (d.store.size - (d.store.cleanup now).size),
      { d with store := d.store.cleanup now })

/-- The call asks for the use of a token. -/
def Uses (token : String) : Call s → Prop
  | .consume token' _ _ => token' = token
  | .verifyLogin _ _ token' _ _ _ _ => token' = token
  | _ => False

end Call

namespace Deployment

variable {s : TokenService}

/-- The deployment after calls. -/
def runAll (d : Deployment) (calls : List (Call s)) : Deployment :=
  calls.foldl (fun d call => (call.run d).2) d

/-- **The times of the calls do not decrease.** -/
def Chronological (calls : List (Call s)) : Prop :=
  (calls.filterMap Call.time?).Pairwise (· ≤ ·)

/-- **The call has recorded the identifier of the token**: it used the token up, whether or not the
proof that came with it was accepted then. -/
inductive Records (d : Deployment) (token : String) (c : Claims) : Call s → Prop
  | consumed {now : Int64} {vkId : String}
      (h : (Call.run d (s := s) (.consume token now vkId)).1 = .claims (.ok c)) :
      Records d token c (.consume token now vkId)
  | admitted {v : s.Verifier} {registry : Nat} {e : Envelope} {userId : String}
      {stored : Commitment} {now : Int64}
      (h : (Call.run d (.verifyLogin v registry token e userId stored now)).1 = .claims (.ok c)) :
      Records d token c (.verifyLogin v registry token e userId stored now)
  | refused {v : s.Verifier} {registry : Nat} {e : Envelope} {userId : String}
      {stored : Commitment} {now : Int64} {key : v.system.VerifyingKey} {store : ReplayStore}
      {err : LoginError}
      (hauthorize : v.verifier.authorize (d.registries registry) token e userId stored now
        = .ok (c, key))
      (hredeem : TokenService.redeem d.store c = .ok store)
      (hjudge : v.verifier.judge key c e stored = .error err) :
      Records d token c (.verifyLogin v registry token e userId stored now)

end Deployment

/-! ## What checks leave -/

/-- A login leaves the store as it is, or uses up one token. -/
theorem LoginVerifier.verifyLogin_store {S : ProofSystem} (v : LoginVerifier S)
    (registry : KeyRegistry) (store : ReplayStore) (token : String) (e : Envelope) (userId : String)
    (stored : Commitment) (now : Int64) :
    (v.verifyLogin registry store token e userId stored now).2 = store
      ∨ ∃ c, TokenService.redeem store c
        = .ok (v.verifyLogin registry store token e userId stored now).2 := by
  rcases v.verifyLogin_cases registry store token e userId stored now with
    ⟨err, hrefused⟩ | ⟨c, key, store', -, hredeem, hjudged⟩
  · exact .inl (congrArg Prod.snd hrefused)
  · exact .inr ⟨c, by rw [hjudged, hredeem]⟩

namespace Call

variable {s : TokenService}

/-- **A login changes nothing but the store.** -/
theorem run_verifyLogin {d : Deployment} {v : s.Verifier} {registry : Nat} {token : String}
    {e : Envelope} {userId : String} {stored : Commitment} {now : Int64}
    {result : Except LoginError Claims} {store : ReplayStore}
    (h : v.verifier.verifyLogin (d.registries registry) d.store token e userId stored now
      = (result, store)) :
    (verifyLogin v registry token e userId stored now).run d
      = (.claims result, { d with store }) := by
  rw [run, Deployment.check, LoginVerifier.run_checkLogin_eq, h]
  simp only [Function.update_eq_self]

/-- **An age check changes nothing.** -/
theorem run_verifyAge (d : Deployment) (v : s.Verifier) (registry : Nat) (e : Envelope)
    (moment : Instant) : (verifyAge v registry e moment).run d
      = (.age (v.verifier.verifyAge (d.registries registry) e moment), d) := by
  rw [run, Deployment.check, LoginVerifier.run_checkAge]
  simp only [Function.update_eq_self]

/-! ## What a call does to the store -/

/-- **What a call does to the store**: nothing, or it uses up one token, or it is a cleanup. -/
theorem store_run (call : Call s) (d : Deployment) :
    (call.run d).2.store = d.store
      ∨ (∃ c, TokenService.redeem d.store c = .ok (call.run d).2.store)
      ∨ ∃ now, call.time? = some now ∧ (call.run d).2.store = d.store.cleanup now := by
  cases call with
  | issue | issueFor | issueChallenge | validate => exact .inl rfl
  | consume token now vkId =>
    rw [run]
    split
    case h_1 => exact .inl rfl
    case h_2 c store h => exact .inr (.inl ⟨c, (TokenService.consume_eq_ok_iff.mp h).2⟩)
  | verifyLogin v registry token e userId stored now =>
    rw [run_verifyLogin rfl]
    exact (v.verifier.verifyLogin_store _ _ _ _ _ _ _).imp_right .inl
  | verifyAge v registry e moment =>
    rw [run_verifyAge]
    exact .inl rfl
  | manage => exact .inl rfl
  | cleanup now => exact .inr (.inr ⟨now, rfl, rfl⟩)

theorem isMemory_run (call : Call s) {d : Deployment} (h : d.store.IsMemory) :
    (call.run d).2.store.IsMemory := by
  obtain hstore | ⟨c, hredeem⟩ | ⟨now, -, hstore⟩ := call.store_run d
  · exact hstore ▸ h
  · exact ⟨_, ((TokenService.redeem_eq_ok_iff h).mp hredeem).2.2⟩
  · exact hstore ▸ h.cleanup now

/-- **A call forgets only what ended before its time.** -/
theorem mem_entries_run (call : Call s) {d : Deployment} {p : String × Int64}
    (hp : p ∈ d.store.entries) :
    p ∈ (call.run d).2.store.entries ∨ ∃ now, call.time? = some now ∧ p.2 < now := by
  obtain hstore | ⟨c, hredeem⟩ | ⟨now, htime, hstore⟩ := call.store_run d
  · exact .inl (hstore ▸ hp)
  · exact .inl (TokenService.mem_entries_of_redeem hredeem hp)
  · by_cases hend : now ≤ p.2
    · exact .inl (hstore ▸ ReplayStore.mem_entries_cleanup.mpr ⟨hp, hend⟩)
    · exact .inr ⟨now, htime, Int64.not_le.mp hend⟩

theorem exists_time?_of_uses {call : Call s} {token : String} (h : call.Uses token) :
    ∃ now, call.time? = some now := by
  cases call with
  | consume token now vkId => exact ⟨now, rfl⟩
  | verifyLogin v registry token e userId stored now => exact ⟨now, rfl⟩
  | _ => exact h.elim

end Call

/-! ## Runs -/

namespace Deployment

variable {s : TokenService} {d : Deployment} {token : String} {c : Claims}

theorem isMemory_runAll (calls : List (Call s)) (h : d.store.IsMemory) :
    (d.runAll calls).store.IsMemory := by
  induction calls generalizing d with
  | nil => exact h
  | cons call calls ih => exact ih (call.isMemory_run h)

/-- **A run forgets only what ended before the time of one of its calls.** -/
theorem mem_entries_runAll (calls : List (Call s)) {p : String × Int64}
    (hp : p ∈ d.store.entries) :
    p ∈ (d.runAll calls).store.entries ∨ ∃ now ∈ calls.filterMap Call.time?, p.2 < now := by
  induction calls generalizing d with
  | nil => exact .inl hp
  | cons call calls ih =>
    obtain hp | ⟨now, htime, hend⟩ := call.mem_entries_run hp
    · refine (ih hp).imp_right ?_
      rintro ⟨now, hmem, hend⟩
      refine ⟨now, ?_, hend⟩
      rw [List.filterMap_cons]
      split
      · exact hmem
      · exact List.mem_cons_of_mem _ hmem
    · exact .inr ⟨now, List.mem_filterMap.mpr ⟨call, List.mem_cons_self, htime⟩, hend⟩

/-! ## One use -/

/-- An authorized login has a token that the service accepts. -/
theorem exists_validate_of_authorize {v : s.Verifier} {registry : KeyRegistry} {e : Envelope}
    {userId : String} {stored : Commitment} {now : Int64} {key : v.system.VerifyingKey}
    (h : v.verifier.authorize registry token e userId stored now = .ok (c, key)) :
    ∃ vkId, s.validate token now vkId = .ok c := by
  obtain ⟨-, -, -, vkId, -, -, hvalidate, -⟩ := LoginVerifier.authorize_eq_ok_iff.mp h
  rw [v.tokens_eq] at hvalidate
  exact ⟨vkId.toHex, hvalidate⟩

/-- **A call that has recorded a token** has found its claims to hold and has redeemed them. -/
theorem Records.validate_and_redeem {call : Call s} (h : Records d token c call) :
    (∃ now vkId, call.time? = some now ∧ s.validate token now vkId = .ok c)
      ∧ TokenService.redeem d.store c = .ok (call.run d).2.store := by
  cases h with
  | @consumed now vkId h =>
    rw [Call.run] at h ⊢
    split at h
    case h_1 => cases h
    case h_2 c' store hconsume =>
      cases h
      obtain ⟨hvalidate, hredeem⟩ := TokenService.consume_eq_ok_iff.mp hconsume
      exact ⟨⟨now, vkId, rfl, hvalidate⟩, hredeem⟩
  | @admitted v registry e userId stored now h =>
    rw [Call.run_verifyLogin rfl] at h
    obtain ⟨key, hauthorize, hunused, -⟩ :=
      LoginVerifier.verifyLogin_eq_ok_iff.mp (Answer.claims.inj h)
    obtain ⟨store, hredeem⟩ := TokenService.exists_redeem_eq_ok_iff.mpr hunused
    obtain ⟨vkId, hvalidate⟩ := exists_validate_of_authorize hauthorize
    refine ⟨⟨now, vkId, rfl, hvalidate⟩, ?_⟩
    rw [Call.run_verifyLogin (LoginVerifier.verifyLogin_of_redeem hauthorize hredeem)]
    exact hredeem
  | @refused v registry e userId stored now key store err hauthorize hredeem hjudge =>
    obtain ⟨vkId, hvalidate⟩ := exists_validate_of_authorize hauthorize
    refine ⟨⟨now, vkId, rfl, hvalidate⟩, ?_⟩
    rw [Call.run_verifyLogin (LoginVerifier.verifyLogin_of_redeem hauthorize hredeem)]
    exact hredeem

/-- A successful use of a token records it. -/
theorem records_of_ok {call : Call s} (huses : call.Uses token)
    (hok : (call.run d).1 = .claims (.ok c)) : Records d token c call := by
  cases call with
  | consume => obtain rfl := huses; exact .consumed hok
  | verifyLogin => obtain rfl := huses; exact .admitted hok
  | _ => exact huses.elim

/-- **The token has been used up**: it carries the claims, and its identifier is remembered as long
as the claims may hold. -/
def Spent (d : Deployment) (s : TokenService) (token : String) (c : Claims) (now : Int64) : Prop :=
  Token.Signs s.keys token c ∧ c.jti ≠ ""
    ∧ ((c.jti, c.expiresAt) ∈ d.store.entries ∨ c.expiresAt < now)

theorem Spent.redeem_eq {now : Int64} (h : d.Spent s token c now) (hnow : now < c.expiresAt) :
    TokenService.redeem d.store c = .error .replayDetected := by
  obtain ⟨-, hjti, hmem | hend⟩ := h
  · exact TokenService.redeem_eq_replayDetected hjti (ReplayStore.contains_iff.mpr ⟨_, hmem⟩)
  · exact absurd (Int64.lt_trans hend hnow) Int64.lt_irrefl

/-- A token that has been used up is not used again. -/
theorem Spent.not_ok {call : Call s} {now : Int64} (h : d.Spent s token c now)
    (htime : call.time? = some now) (huses : call.Uses token) (c' : Claims) :
    (call.run d).1 ≠ .claims (.ok c') := by
  intro hok
  obtain ⟨⟨now', vkId, htime', hvalidate⟩, hredeem⟩ :=
    (records_of_ok huses hok).validate_and_redeem
  obtain rfl := Option.some.inj (htime.symm.trans htime')
  obtain ⟨hsigns, hholds⟩ := TokenService.validate_eq_ok_iff.mp hvalidate
  obtain rfl := h.1.unique hsigns
  rw [h.redeem_eq hholds.now_lt] at hredeem
  cases hredeem

/-- How a token that has been used up is refused. -/
theorem Spent.consume_eq {now now' : Int64} {vkId vkId' : String} (h : d.Spent s token c now)
    (hheld : s.validate token now' vkId' = .ok c) (hvk : vkId = "" ∨ c.vkId = vkId) :
    s.consume d.store token now vkId
      = .error (if now < c.expiresAt then .replayDetected else .tokenExpired) := by
  obtain ⟨hsigns, hholds⟩ := TokenService.validate_eq_ok_iff.mp hheld
  split
  case isTrue hnow =>
    have hvalidate : s.validate token now vkId = .ok c := TokenService.validate_eq_ok_iff.mpr
      ⟨hsigns, hnow, hvk, hholds.paramsVersion_eq, hholds.version_eq⟩
    rw [TokenService.consume, hvalidate]
    change (TokenService.redeem d.store c >>= fun store => pure (c, store)) = _
    rw [h.redeem_eq hnow]
    rfl
  case isFalse hend =>
    rw [TokenService.consume, TokenService.validate_eq_tokenExpired hsigns (Int64.not_lt.mp hend)]
    rfl

/-- **No token is used twice**, in whatever order whole calls come while their times do not
decrease. When a call has recorded the token, no later call that asks for its use succeeds; one that
asks for nothing more than the token says is told that it is a replay before the token ends, and
that the token has ended afterwards. -/
theorem no_second_use (hd : d.store.IsMemory) {before between : List (Call s)}
    {first later : Call s} (hchron : Chronological (before ++ first :: between ++ [later]))
    (hfirst : Records (d.runAll before) token c first) :
    (later.Uses token → ∀ c',
        (later.run (d.runAll (before ++ first :: between))).1 ≠ .claims (.ok c'))
      ∧ ∀ now vkId, later = .consume token now vkId → vkId = "" ∨ c.vkId = vkId →
        (later.run (d.runAll (before ++ first :: between))).1
          = .claims (.error (if now < c.expiresAt then .replayDetected else .tokenExpired)) := by
  obtain ⟨⟨now', vkId', -, hvalidate⟩, hredeem⟩ := hfirst.validate_and_redeem
  obtain ⟨hjti, -, hstore⟩ :=
    (TokenService.redeem_eq_ok_iff (isMemory_runAll before hd)).mp hredeem
  have hmem : (c.jti, c.expiresAt) ∈ (first.run (d.runAll before)).2.store.entries :=
    hstore ▸ List.mem_cons_self
  have hrun : d.runAll (before ++ first :: between)
      = ((first.run (d.runAll before)).2).runAll between := by
    rw [runAll, List.foldl_append, List.foldl_cons]
    rfl
  have hspent {now : Int64} (htime : later.time? = some now) :
      (d.runAll (before ++ first :: between)).Spent s token c now := by
    refine ⟨(TokenService.validate_eq_ok_iff.mp hvalidate).1, hjti, ?_⟩
    rw [hrun]
    refine (mem_entries_runAll between hmem).imp_right ?_
    rintro ⟨time, hbetween, hend⟩
    rw [Chronological, List.filterMap_append, List.pairwise_append] at hchron
    refine Int64.lt_of_lt_of_le hend (hchron.2.2 time ?_ now ?_)
    · rw [List.filterMap_append, List.mem_append, List.filterMap_cons]
      refine .inr ?_
      split
      · exact hbetween
      · exact List.mem_cons_of_mem _ hbetween
    · exact List.mem_filterMap.mpr ⟨later, List.mem_singleton_self later, htime⟩
  refine ⟨fun huses c' => ?_, ?_⟩
  · obtain ⟨now, htime⟩ := Call.exists_time?_of_uses huses
    exact (hspent htime).not_ok htime huses c'
  · rintro now vkId rfl hvk
    rw [Call.run, (hspent rfl).consume_eq hvalidate hvk]

/-- A deployment in which nothing has been used yet. -/
def sampleStart : Deployment := ⟨fun _ => .empty 0, .memory []⟩

/-- A use of the token, whatever key it is for. -/
def sampleUse (now : Int64) : Call .sample := .consume (Token.sample "") now ""

theorem records_sample : Records sampleStart (Token.sample "") (.sample "") (sampleUse 0) := by
  have hvalidate : TokenService.sample.validate (Token.sample "") 0 "" = .ok (.sample "") :=
    TokenService.validate_eq_ok_iff.mpr ⟨Token.signs_sample "", by decide, .inl rfl, .inr rfl,
      .inl rfl⟩
  have hredeem : TokenService.redeem sampleStart.store (.sample "") = .ok (.memory [("j1", 100)]) :=
    rfl
  refine .consumed ?_
  rw [Call.run, TokenService.consume_eq_ok_iff.mpr ⟨hvalidate, hredeem⟩]

/-- A token that was used at second 0 is a replay at second 50, and has ended at second 150, with a
cleanup in between. -/
theorem no_second_use_sample :
    (Call.run (sampleStart.runAll [sampleUse 0, .cleanup 40]) (sampleUse 50)).1
        = .claims (.error .replayDetected)
      ∧ (Call.run (sampleStart.runAll [sampleUse 0, .cleanup 140]) (sampleUse 150)).1
        = .claims (.error .tokenExpired) := by
  have hchron (time now : Int64) (h : [0, time, now].Pairwise (· ≤ ·)) :
      Chronological ([] ++ sampleUse 0 :: [.cleanup time] ++ [sampleUse now]) := h
  exact ⟨(no_second_use ⟨[], rfl⟩ (hchron 40 50 (by decide)) records_sample).2 50 "" rfl (.inl rfl),
    (no_second_use ⟨[], rfl⟩ (hchron 140 150 (by decide)) records_sample).2 150 "" rfl (.inl rfl)⟩

end Deployment

end ProofLogin
