import Mathlib.Data.List.Forall2
import ProofLogin.Proofs.Login.Validity
import ProofLogin.Proofs.Text.Blank
import ProofLogin.Proofs.Text.Integer

/-!
# Proofs/Login/Overlay — the environment replaces what it sets, and nothing else

    settings ──target year‥proof mode──▸ settings' ──validate──▸ settings'

The variables are looked at one after the other, and each of them stands for one setting
(`settings`): where it is set its text has to be a value, which takes the place of the setting, and
where it is not set the setting stays.  Since no two of them stand for the same setting, what comes
out can be said setting by setting, as if all of them were replaced at once
(`foldlM_assign_eq_ok_iff`).

What is refused is refused for the first variable whose text is no value or, where all of them are
values, for the first rule that the settings break after all of them were replaced
(`overlay_exact`).
-/

namespace ProofLogin

/-! ## The texts of values -/

/-- A text spells a mode of replay protection. -/
def ReplayProtection.Spells (s : String) : ReplayProtection → Prop
  | .memory => lowerAscii s = "memory"
  | .disabled => lowerAscii s = "disabled" ∨ lowerAscii s = "off" ∨ lowerAscii s = "none"

theorem ReplayProtection.ofText_eq_ok_iff {s : String} {m : ReplayProtection} :
    ofText s = .ok m ↔ Spells (Text.trim s) m := by
  rw [ofText]
  cases m <;> simp only [Spells] <;> generalize lowerAscii (Text.trim s) = t <;> grind

/-- A text spells a mode of proving. -/
def ProofMode.Spells (s : String) : ProofMode → Prop
  | .production => Text.lowercase s = "production" ∨ Text.lowercase s = "prod"
  | .development => Text.lowercase s = "development" ∨ Text.lowercase s = "dev"

theorem ProofMode.ofText_eq_ok_iff {s : String} {m : ProofMode} :
    ofText s = .ok m ↔ Spells (Text.trim s) m := by
  rw [ofText]
  cases m <;> simp only [Spells] <;> generalize Text.lowercase (Text.trim s) = t <;> grind

namespace AuthConfig

/-- A text spells a number of days, and the period is as many seconds as they have, or the longest
that there is where they have more. -/
def SpellsDays (s : String) (seconds : UInt64) : Prop :=
  ∃ days, Integer.SpellsUInt64 s days
    ∧ seconds.toNat = min (days.toNat * 86400) 0xFFFFFFFFFFFFFFFF

theorem toNat_secondsOfDays (days : UInt64) :
    (secondsOfDays days).toNat = min (days.toNat * 86400) 0xFFFFFFFFFFFFFFFF := by
  have hlt : min (days.toNat * 86400) 0xFFFFFFFFFFFFFFFF < UInt64.size :=
    Nat.lt_of_le_of_lt (Nat.min_le_right _ _) (by decide)
  exact UInt64.toNat_ofNat_of_lt' hlt

/-! ## Settings -/

/-- **A setting that a variable of the environment stands for**: the name of the variable, which
texts spell which values, and where the value is found and put. -/
structure Setting where
  name : String
  {Value : Type}
  IsValue : String → Value → Prop
  get : AuthConfig → Value
  put : AuthConfig → Value → AuthConfig
  put_get : ∀ c, put c (get c) = c := by intro; rfl

/-- **The settings that variables stand for**, in the order in which they are looked at. -/
def settings : List Setting := [
  { name := "ZKID_TARGET_YEAR"
    IsValue := Integer.SpellsInt32
    get c := c.policy.targetYear
    put c n := { c with policy.targetYear := n } },
  { name := "ZKID_LIMIT_AGE"
    IsValue := Integer.SpellsInt32
    get c := c.policy.limitAge
    put c n := { c with policy.limitAge := n } },
  { name := "ZKID_ARGON_MEMORY_KIB"
    IsValue := Integer.SpellsUInt32
    get c := c.policy.kdf.memoryKiB
    put c n := { c with policy.kdf.memoryKiB := n } },
  { name := "ZKID_ARGON_ITERATIONS"
    IsValue := Integer.SpellsUInt32
    get c := c.policy.kdf.iterations
    put c n := { c with policy.kdf.iterations := n } },
  { name := "ZKID_CHALLENGE_TTL_SECS"
    IsValue := Integer.SpellsUInt64
    get c := c.challengeTtl
    put c n := { c with challengeTtl := n } },
  { name := "ZKID_REPLAY_PROTECTION"
    IsValue := ReplayProtection.Spells
    get c := c.replay
    put c m := { c with replay := m } },
  { name := "ZKID_REPLAY_CLEANUP_SECS"
    IsValue := Integer.SpellsUInt64
    get c := c.replayCleanup
    put c n := { c with replayCleanup := n } },
  { name := "ZKID_KEY_GRACE_DAYS"
    IsValue := SpellsDays
    get c := c.rotation.graceSeconds
    put c n := { c with rotation.graceSeconds := n } },
  { name := "ZKID_PROOF_POLICY"
    IsValue := ProofMode.Spells
    get c := c.proofMode
    put c m := { c with proofMode := m } }]

namespace Setting

/-- **The text of a variable is no value**, the blanks around it apart. -/
def Refuses (lookup : String → Option String) (s : Setting) : Prop :=
  ∃ raw, lookup s.name = some raw ∧ ∀ a, ¬s.IsValue (Text.trim raw) a

/-- **A setting is what its variable says**, and what it was where the variable is not set. -/
def Sets (lookup : String → Option String) (s : Setting) (old new : s.Value) : Prop :=
  match lookup s.name with
  | none => new = old
  | some raw => s.IsValue (Text.trim raw) new

/-- The error for a variable that is no value: its name and its text, with the blanks. -/
def refusal (s : Setting) (raw words : String) : LoginError :=
  .invalidConfig (s.name ++ "=" ++ Text.quoted raw ++ ": " ++ words)

theorem exists_sets_iff {lookup : String → Option String} {s : Setting} {old : s.Value} :
    (∃ new, s.Sets lookup old new) ↔ ¬s.Refuses lookup := by
  rw [Refuses]
  simp only [Sets]
  cases lookup s.name with
  | none => simp
  | some raw => simp

end Setting

/-- **Settings with an environment over them**: each that a variable stands for is what the variable
says, and the others are what they were. -/
structure Overlaid (lookup : String → Option String) (c c' : AuthConfig) : Prop where
  sets : ∀ s ∈ settings, s.Sets lookup (s.get c) (s.get c')
  leadSeconds : c'.rotation.leadSeconds = c.rotation.leadSeconds
  checkSeconds : c'.rotation.checkSeconds = c.rotation.checkSeconds

variable {lookup : String → Option String} {c c' : AuthConfig} {e : LoginError}

/-! ## One variable -/

/-- **A variable stands for a setting**: it puts its values in the place of the setting, and takes
no other texts. -/
structure Variable.StandsFor (v : Variable) (s : Setting) : Prop where
  name : v.name = s.name
  assign : ∀ c raw c', v.assign c (Text.trim raw) = .ok c' ↔
    ∃ a, s.IsValue (Text.trim raw) a ∧ s.put c a = c'

section StandsFor

variable {v : Variable} {s : Setting}

theorem Variable.StandsFor.of {ε α : Type} {name : String} {read : String → Except ε α}
    {words : ε → String} {put : AuthConfig → α → AuthConfig} (hname : name = s.name)
    (f : α → s.Value) (hput : ∀ c a, put c a = s.put c (f a))
    (hread : ∀ raw b, (∃ a, read (Text.trim raw) = .ok a ∧ f a = b) ↔ s.IsValue (Text.trim raw) b) :
    (Variable.of name read words put).StandsFor s where
  name := hname
  assign c raw c' := by
    simp only [← hread, Variable.of]
    cases read (Text.trim raw) with
    | error e => simp
    | ok a => simp [hput]

/-- **The setting is what the variable says**, and nothing else is changed. -/
theorem assign_eq_ok_iff (h : v.StandsFor s) :
    assign lookup c v = .ok c' ↔ ∃ a, s.Sets lookup (s.get c) a ∧ s.put c a = c' := by
  rw [assign, h.name]
  simp only [Setting.Sets]
  cases hraw : lookup s.name with
  | none => simp [s.put_get]
  | some raw =>
    simp only [← h.assign]
    cases v.assign c (Text.trim raw) <;> simp

/-- **What is refused is a text that is no value.** -/
theorem exists_refusal_of_assign (h : v.StandsFor s) (herror : assign lookup c v = .error e) :
    s.Refuses lookup ∧ ∃ raw words, lookup s.name = some raw ∧ s.refusal raw words = e := by
  have hrefuses : s.Refuses lookup := by
    by_contra hnot
    obtain ⟨a, ha⟩ := Setting.exists_sets_iff.mpr hnot
    cases herror.symm.trans ((assign_eq_ok_iff h).mpr ⟨a, ha, rfl⟩)
  refine ⟨hrefuses, ?_⟩
  obtain ⟨raw, hraw, -⟩ := hrefuses
  rw [assign, h.name, hraw] at herror
  simp only at herror
  split at herror
  case h_1 words _ => exact ⟨raw, words, hraw, Except.error.inj herror⟩
  case h_2 => cases herror

end StandsFor

/-! ## All of the variables -/

/-- **Each variable stands for one setting.** -/
theorem standsFor_knownVariables : List.Forall₂ Variable.StandsFor knownVariables settings := by
  have hdays (raw : String) (b : UInt64) :
      (∃ days, Integer.readUInt64 (Text.trim raw) = .ok days ∧ secondsOfDays days = b)
        ↔ SpellsDays (Text.trim raw) b := by
    simp only [Integer.readUInt64_eq_ok_iff, SpellsDays, ← UInt64.toNat_inj, toNat_secondsOfDays,
      eq_comm (a := b.toNat)]
  refine .cons ?_ <| .cons ?_ <| .cons ?_ <| .cons ?_ <| .cons ?_ <| .cons ?_ <| .cons ?_ <|
    .cons ?_ <| .cons ?_ .nil
  · exact .of rfl id (fun _ _ => rfl) (by simp [Integer.readInt32_eq_ok_iff])
  · exact .of rfl id (fun _ _ => rfl) (by simp [Integer.readInt32_eq_ok_iff])
  · exact .of rfl id (fun _ _ => rfl) (by simp [Integer.readUInt32_eq_ok_iff])
  · exact .of rfl id (fun _ _ => rfl) (by simp [Integer.readUInt32_eq_ok_iff])
  · exact .of rfl id (fun _ _ => rfl) (by simp [Integer.readUInt64_eq_ok_iff])
  · exact .of rfl id (fun _ _ => rfl) (by simp [ReplayProtection.ofText_eq_ok_iff, Text.trim_trim])
  · exact .of rfl id (fun _ _ => rfl) (by simp [Integer.readUInt64_eq_ok_iff])
  · exact .of rfl secondsOfDays (fun _ _ => rfl) hdays
  · exact .of rfl id (fun _ _ => rfl) (by simp [ProofMode.ofText_eq_ok_iff, Text.trim_trim])

/-- Settings after some variables: the value that each says is put in, one after the other. -/
def Replaced (lookup : String → Option String) : List Setting → AuthConfig → AuthConfig → Prop
  | [], c, c' => c = c'
  | s :: ss, c, c' => ∃ a, s.Sets lookup (s.get c) a ∧ Replaced lookup ss (s.put c a) c'

theorem foldlM_assign_eq_ok_iff_replaced {vs : List Variable} {ss : List Setting}
    (h : List.Forall₂ Variable.StandsFor vs ss) :
    vs.foldlM (assign lookup) c = .ok c' ↔ Replaced lookup ss c c' := by
  induction h generalizing c with
  | nil => exact Outcome.pure_eq_ok
  | @cons v s vs ss hv _ ih =>
    rw [List.foldlM_cons, Outcome.bind_eq_ok, Replaced]
    simp only [assign_eq_ok_iff hv, ih]
    constructor
    · rintro ⟨-, ⟨a, ha, rfl⟩, h⟩
      exact ⟨a, ha, h⟩
    · rintro ⟨a, ha, h⟩
      exact ⟨_, ⟨a, ha, rfl⟩, h⟩

/-- **Each value goes into a place of its own**, so that they may as well be put in at once. -/
theorem replaced_settings_iff : Replaced lookup settings c c' ↔ Overlaid lookup c c' := by
  constructor
  · rintro ⟨year, hyear, age, hage, memory, hmemory, passes, hpasses, ttl, httl, replay, hreplay,
      cleanup, hcleanup, grace, hgrace, mode, hmode, rfl⟩
    exact {
      sets := by
        simp only [settings, List.forall_mem_cons]
        exact ⟨hyear, hage, hmemory, hpasses, httl, hreplay, hcleanup, hgrace, hmode, nofun⟩
      leadSeconds := rfl
      checkSeconds := rfl }
  · intro h
    obtain ⟨policy, ttl, replay, cleanup, ⟨grace, lead, check⟩, mode⟩ := c'
    have hsets := h.sets
    simp only [settings, List.forall_mem_cons] at hsets
    obtain ⟨hyear, hage, hmemory, hpasses, httl, hreplay, hcleanup, hgrace, hmode, -⟩ := hsets
    obtain rfl : lead = c.rotation.leadSeconds := h.leadSeconds
    obtain rfl : check = c.rotation.checkSeconds := h.checkSeconds
    exact ⟨_, hyear, _, hage, _, hmemory, _, hpasses, _, httl, _, hreplay, _, hcleanup, _, hgrace,
      _, hmode, rfl⟩

/-- **What comes out of the variables**, before it is validated. -/
theorem foldlM_assign_eq_ok_iff :
    knownVariables.foldlM (assign lookup) c = .ok c' ↔ Overlaid lookup c c' := by
  rw [foldlM_assign_eq_ok_iff_replaced standsFor_knownVariables, replaced_settings_iff]

/-- **The first variable that is no value is the one that is named.** -/
theorem exists_isFirst_of_foldlM {vs : List Variable} {ss : List Setting}
    (h : List.Forall₂ Variable.StandsFor vs ss)
    (herror : vs.foldlM (assign lookup) c = .error e) :
    ∃ s, IsFirst (Setting.Refuses lookup) ss s
      ∧ ∃ raw words, lookup s.name = some raw ∧ s.refusal raw words = e := by
  induction h generalizing c with
  | nil => cases herror
  | @cons v s vs ss hv _ ih =>
    rw [exists_isFirst_cons_and]
    rw [List.foldlM_cons] at herror
    obtain herror | ⟨c', hc', herror⟩ := Outcome.bind_eq_error.mp herror
    · exact .inl (exists_refusal_of_assign hv herror)
    · obtain ⟨a, ha, -⟩ := (assign_eq_ok_iff hv).mp hc'
      exact .inr ⟨Setting.exists_sets_iff.mp ⟨a, ha⟩, ih herror⟩

/-- The variables can be put in exactly where none of them is refused. -/
theorem exists_overlaid_iff :
    (∃ c', Overlaid lookup c c') ↔ ∀ s ∈ settings, ¬s.Refuses lookup := by
  constructor
  · rintro ⟨c', h⟩ s hs
    exact Setting.exists_sets_iff.mp ⟨_, h.sets s hs⟩
  · intro hnone
    simp only [← foldlM_assign_eq_ok_iff]
    cases hfold : knownVariables.foldlM (assign lookup) c with
    | ok c' => exact ⟨c', rfl⟩
    | error e =>
      obtain ⟨s, hs, -⟩ := exists_isFirst_of_foldlM standsFor_knownVariables hfold
      exact absurd hs.prop (hnone s hs.mem)

/-- There is one way to put them in. -/
theorem Overlaid.unique {c'' : AuthConfig} (h : Overlaid lookup c c')
    (h' : Overlaid lookup c c'') : c'' = c' :=
  Except.ok.inj ((foldlM_assign_eq_ok_iff.mpr h').symm.trans (foldlM_assign_eq_ok_iff.mpr h))

/-! ## The environment -/

/-- **Why settings with an environment over them are refused.** -/
inductive Refusal (lookup : String → Option String) (c : AuthConfig) : LoginError → Prop where
  | noValue {s : Setting} {raw words : String} (hs : IsFirst (Setting.Refuses lookup) settings s)
      (hraw : lookup s.name = some raw) : Refusal lookup c (s.refusal raw words)
  | broken {c' : AuthConfig} {r : ValidityRule} (hc' : Overlaid lookup c c')
      (hr : IsFirst (ValidityRule.Broken · c') validityRules r) :
      Refusal lookup c (.invalidConfig (r.words c'))

/-- **The environment is put over settings exactly.**  What comes out are the settings with the
values of the variables in their places and nothing else changed, if all of the variables that are
set have values and no rule is broken afterwards, whatever was broken before.  Otherwise the error
is that of the first variable without a value or else of the first rule that is broken. -/
theorem overlay_exact (c : AuthConfig) (lookup : String → Option String) :
    (∀ c', overlay c lookup = .ok c' ↔ Overlaid lookup c c' ∧ c'.validate = .ok ())
      ∧ ((∃! c', Overlaid lookup c c') ↔ ∀ s ∈ settings, ¬s.Refuses lookup)
      ∧ (∀ c' : AuthConfig, c'.validate = .ok () ↔ ∀ r ∈ validityRules, ¬r.Broken c')
      ∧ ∀ e, overlay c lookup = .error e → Refusal lookup c e := by
  refine ⟨fun c' => ?_, ?_, fun c' => ?_, fun e he => ?_⟩
  · rw [overlay, Outcome.bind_eq_ok]
    simp only [foldlM_assign_eq_ok_iff, Outcome.bind_eq_ok, Outcome.pure_eq_ok]
    constructor
    · rintro ⟨_, hover, _, hvalid, rfl⟩
      exact ⟨hover, hvalid⟩
    · rintro ⟨hover, hvalid⟩
      exact ⟨c', hover, (), hvalid, rfl⟩
  · rw [← exists_overlaid_iff (c := c)]
    refine ⟨ExistsUnique.exists, ?_⟩
    rintro ⟨c', h⟩
    exact ⟨c', h, fun _ => h.unique⟩
  · exact validate_eq_ok_iff
  · rw [overlay] at he
    obtain he | ⟨c', hc', he⟩ := Outcome.bind_eq_error.mp he
    · obtain ⟨s, hs, raw, words, hraw, rfl⟩ := exists_isFirst_of_foldlM standsFor_knownVariables he
      exact .noValue hs hraw
    · obtain he | ⟨-, -, he⟩ := Outcome.bind_eq_error.mp he
      · rw [validate_eq_checkRules] at he
        obtain ⟨r, hr, rfl⟩ := checkRules_eq_error_iff.mp he
        exact .broken (foldlM_assign_eq_ok_iff.mp hc') hr
      · cases he

/-- An environment in which some variables are set. -/
def environment (vars : List (String × String)) (name : String) : Option String :=
  vars.lookup name

/-- Variables mend what is broken; of two that are no values the one that is looked at first is
named; and a number of days whose seconds begin anew behind the greatest of 64 bits is refused. -/
theorem overlay_exact_sample :
    let broken := { default with challengeTtl := 0, rotation.graceSeconds := 400000000 }
    let mended := { default with challengeTtl := 60, rotation.graceSeconds := 1209600 }
    let mending := environment
      [("ZKID_KEY_GRACE_DAYS", " 14\t"), ("ZKID_CHALLENGE_TTL_SECS", "+060")]
    let misspelt := environment [("ZKID_PROOF_POLICY", "yolo"), ("ZKID_LIMIT_AGE", " x")]
    let wrapping := environment [("ZKID_KEY_GRACE_DAYS", "213503982334602")]
    broken.validate ≠ .ok () ∧ overlay broken mending = .ok mended
      ∧ Overlaid mending broken mended ∧ mended.validate = .ok ()
      ∧ Refusal misspelt default
        (.invalidConfig "ZKID_LIMIT_AGE=\" x\": invalid digit found in string")
      ∧ Refusal wrapping default
        (.invalidConfig "rotation.grace_period_secs exceeds 315360000") := by
  intro broken mended mending misspelt wrapping
  have hbroken : broken.validate ≠ .ok () := nofun
  have hmended : overlay broken mending = .ok mended := by decide +kernel
  have hmisspelt : overlay default misspelt
      = .error (.invalidConfig "ZKID_LIMIT_AGE=\" x\": invalid digit found in string") := by rfl
  have hwrapping : overlay default wrapping
      = .error (.invalidConfig "rotation.grace_period_secs exceeds 315360000") := by rfl
  obtain ⟨hover, hvalid⟩ := ((overlay_exact broken mending).1 mended).mp hmended
  exact ⟨hbroken, hmended, hover, hvalid, (overlay_exact default misspelt).2.2.2 _ hmisspelt,
    (overlay_exact default wrapping).2.2.2 _ hwrapping⟩

end AuthConfig

end ProofLogin
