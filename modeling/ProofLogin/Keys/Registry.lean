import ProofLogin.Keys.Event
import ProofLogin.Ordered

/-!
# Keys/Registry — the keys that a deployment trusts

A registry holds key versions, and as soon as it holds one, one of them is active: the first that
was registered, until another one is made active. A key without expiry is trusted for good, another
one up to and including the moment of its expiry; deprecating a key lets it expire after a period of
grace. An operation that fails changes nothing.
-/

namespace ProofLogin

/-- **A key that has been registered.** -/
structure KeyVersion where
  version : String
  vkId : Fingerprint
  pkId : Fingerprint
  createdAt : Instant
  expiresAt : Option Instant
  isActive : Bool
  deriving DecidableEq

namespace KeyVersion

/-- The key has expired. -/
def isExpiredAt (v : KeyVersion) (now : Instant) : Bool :=
  v.expiresAt.any fun e => e < now

/-- The order of a listing: older versions first, versions of one moment by their names. -/
def before (v w : KeyVersion) : Bool :=
  v.createdAt < w.createdAt || (v.createdAt = w.createdAt && v.vkId.before w.vkId)

/-- The members of a version. -/
def memberNames : List String :=
  ["version", "vk_id", "pk_id", "created_at", "expires_at", "is_active"]

/-- A version as a JSON value. -/
def toJson (v : KeyVersion) : Json.Value :=
  .object [
    ("version", .text v.version),
    ("vk_id", v.vkId.toJson),
    ("pk_id", v.pkId.toJson),
    ("created_at", v.createdAt.toJson),
    ("expires_at", .ofOption Instant.toJson v.expiresAt),
    ("is_active", .bool v.isActive)]

/-- A version from a JSON value. -/
def ofJson? (t : Json.Tree) : Option KeyVersion := do
  match ← t.record? memberNames with
  | [version, vkId, pkId, createdAt, expiresAt, isActive] =>
    return {
      version := ← Record.required? Json.Tree.text? version
      vkId := ← Record.required? Fingerprint.ofJson? vkId
      pkId := ← Record.required? Fingerprint.ofJson? pkId
      createdAt := ← Record.required? Instant.ofJson? createdAt
      expiresAt := ← Record.withDefault? none (Json.Tree.optional? Instant.ofJson?) expiresAt
      isActive := ← Record.withDefault? false Json.Tree.bool? isActive }
  | _ => none

end KeyVersion

/-- **Why a registry refuses.** -/
inductive RegistryError where
  | alreadyRegistered (vkId : Fingerprint)
  | notFound (vkId : Fingerprint)
  | noActive
  deriving DecidableEq

namespace RegistryError

/-- The words of an error. -/
def message : RegistryError → String
  | .alreadyRegistered vkId => "key version already registered: " ++ vkId.toHex
  | .notFound vkId => "key version not found: " ++ vkId.toHex
  | .noActive => "no active key version"

/-- The code of an error. -/
def code : RegistryError → ErrorCode
  | .alreadyRegistered _ => .invalidConfig
  | .notFound _ => .keyRotation
  | .noActive => .keyRotation

end RegistryError

/-- **The registered keys**, the last one first, the name of the active one, and the period of
grace that a deprecated key has. -/
structure KeyRegistry where
  versions : List KeyVersion
  active : Option Fingerprint
  grace : Period
  deriving DecidableEq

namespace KeyRegistry

/-- A registry without keys. -/
def empty (grace : Period) : KeyRegistry :=
  ⟨[], none, grace⟩

/-- The whole seconds of grace. -/
def graceSeconds (r : KeyRegistry) : Nat :=
  r.grace.seconds.toNat

/-- The version of a name. -/
def find? (r : KeyRegistry) (vkId : Fingerprint) : Option KeyVersion :=
  r.versions.find? fun v => v.vkId = vkId

/-- **The version of a name**, which has to be registered. -/
def get (r : KeyRegistry) (vkId : Fingerprint) : Except RegistryError KeyVersion :=
  match r.find? vkId with
  | none => .error (.notFound vkId)
  | some v => .ok v

/-- **The active version.** -/
def getActive (r : KeyRegistry) : Except RegistryError KeyVersion :=
  match r.active with
  | none => .error .noActive
  | some vkId => r.get vkId

/-- **The versions in the order of a listing.** -/
def list (r : KeyRegistry) : List KeyVersion :=
  Ordered.sort KeyVersion.before r.versions

/-- **The key is registered and has not expired.** -/
def isValidAt (r : KeyRegistry) (vkId : Fingerprint) (now : Instant) : Bool :=
  (r.find? vkId).any fun v => !v.isExpiredAt now

/-- Every version of a name changed in the same way. -/
def modify (r : KeyRegistry) (vkId : Fingerprint) (f : KeyVersion → KeyVersion) : KeyRegistry :=
  { r with versions := r.versions.map fun v => if v.vkId = vkId then f v else v }

/-! ## Operations -/

/-- **A registry and the events** that operators have been told, the first one first. -/
structure History where
  registry : KeyRegistry
  events : List RotationEvent

/-- **What is done to a registry.** What has been written and told by then stays, whether or not it
is refused. -/
abbrev Action (α : Type) := ExceptT RegistryError (StateM History) α

namespace Action

/-- The registry as it is. -/
def read : Action KeyRegistry :=
  return (← getThe History).registry

/-- The registry changed. -/
def write (f : KeyRegistry → KeyRegistry) : Action Unit :=
  modifyThe History fun h => { h with registry := f h.registry }

/-- An event told to the operators. -/
def tell (event : RotationEvent) : Action Unit :=
  modifyThe History fun h => { h with events := h.events ++ [event] }

/-- **What comes of an action** on a registry, with the events that it tells of, unless it is
refused. -/
def outcome {α : Type} (a : Action α) (r : KeyRegistry) : Except RegistryError (α × History) :=
  let (result, h) := a.run.run ⟨r, []⟩
  result.map fun x => (x, h)

end Action

/-- **One version more.** It is active if it is the only one, whatever it says itself. -/
def registering (v : KeyVersion) : Action Unit := do
  let r ← Action.read
  match r.find? v.vkId with
  | some _ => throw (.alreadyRegistered v.vkId)
  | none =>
    let v := { v with isActive := r.active.isNone }
    if v.isActive then Action.write fun r => { r with active := some v.vkId }
    Action.write fun r => { r with versions := v :: r.versions }

/-- **Another key made active.** Operators are told if there is a change. -/
def activating (vkId : Fingerprint) : Action Unit := do
  let r ← Action.read
  match r.find? vkId with
  | none => throw (.notFound vkId)
  | some _ =>
    Action.write fun r => { r with active := some vkId }
    unless r.active = some vkId do
      match r.active with
      | none => pure ()
      | some previous =>
        Action.write fun r => r.modify previous fun v => { v with isActive := false }
      Action.write fun r => r.modify vkId fun v => { v with isActive := true }
      Action.tell (.rotation r.active vkId)

/-- **A key that will expire after the period of grace**, and the moment when it does. -/
def deprecating (vkId : Fingerprint) (now : Instant) : Action Instant := do
  let r ← Action.read
  match r.find? vkId with
  | none => throw (.notFound vkId)
  | some _ =>
    let expiresAt := now.after r.grace
    Action.write fun r => r.modify vkId fun v => { v with expiresAt := some expiresAt }
    return expiresAt

/-- The registry with one version more. -/
def register (r : KeyRegistry) (v : KeyVersion) : Except RegistryError KeyRegistry :=
  ((registering v).outcome r).map fun (_, h) => h.registry

/-- The registry with another key made active, and the event that tells of it. -/
def setActive (r : KeyRegistry) (vkId : Fingerprint) :
    Except RegistryError (KeyRegistry × Option RotationEvent) :=
  ((activating vkId).outcome r).map fun (_, h) => (h.registry, h.events.head?)

/-- The registry in which a key will expire, and the moment when it does. -/
def deprecateAt (r : KeyRegistry) (vkId : Fingerprint) (now : Instant) :
    Except RegistryError (KeyRegistry × Instant) :=
  ((deprecating vkId now).outcome r).map fun (expiresAt, h) => (h.registry, expiresAt)

/-- How a registry is shown in logs. -/
def inspect (r : KeyRegistry) : String :=
  "MemoryKeyRegistry \x7b versions: " ++ toString r.versions.length ++ ", active: "
    ++ Fingerprint.inspectOption r.active ++ ", grace_period: " ++ r.grace.inspect ++ " \x7d"

end KeyRegistry

end ProofLogin
