import ProofLogin.Keys.Rotation
import ProofLogin.Text.Integer
import ProofLogin.Token.Service

/-!
# Login/Config — the settings of a deployment

Settings come from a file, and what the file does not say is as in the default. Variables of the
environment then replace single settings, in a fixed order, and the whole is validated last: a
variable can mend what is wrong in the file, and a bad variable is never replaced by the file.
-/

namespace ProofLogin

/-- **The settings of a deployment.** -/
structure AuthConfig where
  policy : Policy
  challengeTtl : UInt64
  replay : ReplayProtection
  replayCleanup : UInt64
  rotation : RotationSchedule
  proofMode : ProofMode
  deriving DecidableEq, Repr

namespace AuthConfig

/-- The settings where none are given: two minutes for a challenge, a cleanup every five minutes. -/
def default : AuthConfig where
  policy := .default
  challengeTtl := 120
  replay := .memory
  replayCleanup := 300
  rotation := .default
  proofMode := .default

/-! ## Settings in JSON -/

/-- The members of settings. -/
def memberNames : List String :=
  ["policy", "challenge_ttl_secs", "replay", "replay_cleanup_interval_secs", "rotation",
    "proof_policy"]

/-- Settings as a JSON value. -/
def toJson (c : AuthConfig) : Json.Value :=
  .object [
    ("policy", c.policy.toJson),
    ("challenge_ttl_secs", .ofUInt64 c.challengeTtl),
    ("replay", .text c.replay.name),
    ("replay_cleanup_interval_secs", .ofUInt64 c.replayCleanup),
    ("rotation", c.rotation.toJson),
    ("proof_policy", .text c.proofMode.name)]

/-- Settings from a JSON value; what it does not say is as in the default. -/
def ofJson? (t : Json.Tree) : Option AuthConfig := do
  match ← t.record? memberNames with
  | [policy, ttl, replay, cleanup, rotation, mode] =>
    return {
      policy := ← Record.withDefault? default.policy Policy.ofJson? policy
      challengeTtl := ← Record.withDefault? default.challengeTtl Json.Tree.uint64? ttl
      replay := ← Record.withDefault? default.replay (Json.Tree.name? ReplayProtection.names) replay
      replayCleanup := ← Record.withDefault? default.replayCleanup Json.Tree.uint64? cleanup
      rotation := ← Record.withDefault? default.rotation RotationSchedule.ofJson? rotation
      proofMode := ← Record.withDefault? default.proofMode (Json.Tree.name? ProofMode.names) mode }
  | _ => none

/-! ## Validity -/

/-- The seconds of a day. -/
def secondsPerDay : Nat := 86400

/-- The longest period of grace, in seconds: ten years. -/
def longestGrace : Nat := 3650 * secondsPerDay

/-- **Settings that a deployment can be run with.** -/
def validate (c : AuthConfig) : Except LoginError Unit := do
  c.policy.validate.mapError LoginError.ofParameter
  if c.challengeTtl = 0 then .error (.invalidConfig "challenge_ttl_secs must be positive")
  else if c.replayCleanup = 0 then
    .error (.invalidConfig "replay_cleanup_interval_secs must be positive")
  else if c.rotation.checkSeconds = 0 then
    .error (.invalidConfig "rotation.check_interval_secs must be positive")
  else if longestGrace < c.rotation.graceSeconds.toNat then
    .error (.invalidConfig ("rotation.grace_period_secs exceeds " ++ toString longestGrace))
  else .ok ()

/-! ## The environment -/

/-- **A variable of the environment**: its name, and the settings with its value, or the words for a
value that is none. -/
structure Variable where
  name : String
  assign : AuthConfig → String → Except String AuthConfig

/-- A variable whose value is read by `read`. -/
def Variable.of {ε α : Type} (name : String) (read : String → Except ε α) (words : ε → String)
    (put : AuthConfig → α → AuthConfig) : Variable where
  name
  assign c s := match read s with
    | .error e => .error (words e)
    | .ok a => .ok (put c a)

/-- The seconds of a number of days, at most what 64 bits hold. -/
def secondsOfDays (days : UInt64) : UInt64 :=
  UInt64.ofNat (min (days.toNat * secondsPerDay) 0xFFFFFFFFFFFFFFFF)

/-- **The variables, in the order in which they are looked at.** -/
def knownVariables : List Variable := [
  .of "ZKID_TARGET_YEAR" Integer.readInt32 Integer.Fault.message fun c n =>
    { c with policy := { c.policy with targetYear := n } },
  .of "ZKID_LIMIT_AGE" Integer.readInt32 Integer.Fault.message fun c n =>
    { c with policy := { c.policy with limitAge := n } },
  .of "ZKID_ARGON_MEMORY_KIB" Integer.readUInt32 Integer.Fault.message fun c n =>
    { c with policy := { c.policy with kdf := { c.policy.kdf with memoryKiB := n } } },
  .of "ZKID_ARGON_ITERATIONS" Integer.readUInt32 Integer.Fault.message fun c n =>
    { c with policy := { c.policy with kdf := { c.policy.kdf with iterations := n } } },
  .of "ZKID_CHALLENGE_TTL_SECS" Integer.readUInt64 Integer.Fault.message fun c n =>
    { c with challengeTtl := n },
  .of "ZKID_REPLAY_PROTECTION" ReplayProtection.ofText id fun c m =>
    { c with replay := m },
  .of "ZKID_REPLAY_CLEANUP_SECS" Integer.readUInt64 Integer.Fault.message fun c n =>
    { c with replayCleanup := n },
  .of "ZKID_KEY_GRACE_DAYS" Integer.readUInt64 Integer.Fault.message fun c days =>
    { c with rotation := { c.rotation with graceSeconds := secondsOfDays days } },
  .of "ZKID_PROOF_POLICY" ProofMode.ofText BackendError.message fun c m =>
    { c with proofMode := m }]

/-- The settings after one variable, if it is set. Blanks around its value do not count, but they
are shown when it is refused. -/
def assign (lookup : String → Option String) (c : AuthConfig) (v : Variable) :
    Except LoginError AuthConfig :=
  match lookup v.name with
  | none => .ok c
  | some raw => match v.assign c (Text.trim raw) with
    | .error words => .error (.invalidConfig (v.name ++ "=" ++ Text.quoted raw ++ ": " ++ words))
    | .ok c => .ok c

/-- **The settings with the environment over them**, validated. -/
def overlay (c : AuthConfig) (lookup : String → Option String) : Except LoginError AuthConfig := do
  let c ← knownVariables.foldlM (assign lookup) c
  c.validate
  return c

/-! ## Deployment -/

/-- A store of the mode that is set. -/
def store (c : AuthConfig) : ReplayStore :=
  .ofMode c.replay

/-- **The token service of the settings.** -/
def tokenService (c : AuthConfig) (keys : KeySet) : Except LoginError TokenService :=
  TokenService.of keys c.policy c.challengeTtl

/-- A registry with the period of grace that is set. -/
def registry (c : AuthConfig) : KeyRegistry :=
  .empty c.rotation.grace

end AuthConfig

end ProofLogin
