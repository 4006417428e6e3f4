import ProofLogin.Keys.Registry

/-!
# Keys/Rotation — when keys are looked after

A schedule says how long a deprecated key is still trusted, how long before its expiry the operator
is warned, and how often the keys are looked at. A look warns of every key that will expire within
the lead time and reports every key that has expired; the moment of the expiry itself is neither.
-/

namespace ProofLogin

/-- **The periods of rotation**, in seconds. -/
structure RotationSchedule where
  graceSeconds : UInt64
  leadSeconds : UInt64
  checkSeconds : UInt64
  deriving DecidableEq, Repr

namespace RotationSchedule

/-- A month of grace, a week of warning, a look a day. -/
def default : RotationSchedule := ⟨2592000, 604800, 86400⟩

/-- The longest period that counts, in seconds. -/
def longest : Nat := 0x7FFFFFFFFFFFFFFF / 1000

/-- A period that is not too long. -/
def clamp (seconds : UInt64) : Nat :=
  min seconds.toNat longest

/-- The period of grace. -/
def grace (s : RotationSchedule) : Nat := clamp s.graceSeconds

/-- The lead time. -/
def lead (s : RotationSchedule) : Nat := clamp s.leadSeconds

/-- The members of a schedule. -/
def memberNames : List String :=
  ["grace_period_secs", "notify_before_expiry_secs", "check_interval_secs"]

/-- A schedule as a JSON value. -/
def toJson (s : RotationSchedule) : Json.Value :=
  .object [
    ("grace_period_secs", .ofUInt64 s.graceSeconds),
    ("notify_before_expiry_secs", .ofUInt64 s.leadSeconds),
    ("check_interval_secs", .ofUInt64 s.checkSeconds)]

/-- A schedule from a JSON value; what it does not say is as in the default. -/
def ofJson? (t : Json.Tree) : Option RotationSchedule := do
  match ← t.record? memberNames with
  | [grace, lead, check] =>
    return {
      graceSeconds := ← Record.withDefault? default.graceSeconds Json.Tree.uint64? grace
      leadSeconds := ← Record.withDefault? default.leadSeconds Json.Tree.uint64? lead
      checkSeconds := ← Record.withDefault? default.checkSeconds Json.Tree.uint64? check }
  | _ => none

/-- How a schedule is shown in logs. -/
def inspect (s : RotationSchedule) : String :=
  "RotationConfig \x7b grace_period_secs: " ++ toString s.graceSeconds.toNat
    ++ ", notify_before_expiry_secs: " ++ toString s.leadSeconds.toNat
    ++ ", check_interval_secs: " ++ toString s.checkSeconds.toNat ++ " \x7d"

/-- How the monitor of a schedule is shown in logs. -/
def inspectMonitor (s : RotationSchedule) : String :=
  "RotationMonitor \x7b config: " ++ s.inspect ++ ", .. \x7d"

end RotationSchedule

/-- What a look at a version finds. -/
def KeyVersion.expiryEvent? (v : KeyVersion) (leadSeconds : Nat) (now : Instant) :
    Option RotationEvent :=
  match v.expiresAt with
  | none => none
  | some e =>
    if e < now then some (.expired v.vkId e)
    else if now < e ∧ e.since now ≤ leadSeconds * Instant.nanosPerSecond then
      some (.expiryWarning v.vkId e now)
    else none

/-- **What a look at the keys finds**, in the order of the listing. -/
def KeyRegistry.checkExpiration (r : KeyRegistry) (s : RotationSchedule) (now : Instant) :
    List RotationEvent :=
  r.list.filterMap fun v => v.expiryEvent? s.lead now

/-! ## Monitors -/

/-- **A channel of events**: what has been sent, the first one first, and whether anyone still
receives it. -/
structure EventChannel where
  sent : List RotationEvent
  isOpen : Bool
  deriving DecidableEq

/-- An event sent. It is dropped once nobody receives it. -/
def EventChannel.send (event : RotationEvent) : StateM EventChannel Unit :=
  modify fun c => if c.isOpen then { c with sent := c.sent ++ [event] } else c

/-- **A monitor**: its schedule, and how it tells of an event. -/
structure RotationMonitor (σ : Type) where
  schedule : RotationSchedule
  notify : RotationEvent → StateM σ Unit

/-- **A look by a monitor**, which tells of the events one by one before it returns them. -/
def RotationMonitor.look {σ : Type} (m : RotationMonitor σ) (r : KeyRegistry) (now : Instant) :
    StateM σ (List RotationEvent) := do
  let events := r.checkExpiration m.schedule now
  events.forM m.notify
  return events

end ProofLogin
