import ProofLogin.Fingerprint
import ProofLogin.Instant

/-!
# Keys/Event — what happens to the keys of a deployment

An operator is told when another key becomes active, when a key is about to expire and when it has
expired.
-/

namespace ProofLogin

/-- **What has happened to a key.** -/
inductive RotationKind where
  | rotation
  | expiryWarning
  | expired
  deriving DecidableEq, Repr

namespace RotationKind

/-- The name of a kind. -/
def name : RotationKind → String
  | .rotation => "rotation"
  | .expiryWarning => "expiry_warning"
  | .expired => "expired"

/-- The kinds by their names. -/
def names : List (String × RotationKind) :=
  [("rotation", .rotation), ("expiry_warning", .expiryWarning), ("expired", .expired)]

end RotationKind

/-- **An event in the life of a key.** -/
structure RotationEvent where
  kind : RotationKind
  vkId : Fingerprint
  previous : Option Fingerprint
  expiresAt : Option Instant
  message : String
  deriving DecidableEq

namespace RotationEvent

/-- A key has become active. -/
def rotation (previous : Option Fingerprint) (active : Fingerprint) : RotationEvent where
  kind := .rotation
  vkId := active
  previous
  expiresAt := none
  message := match previous with
    | some p => "active key rotated from " ++ p.short ++ " to " ++ active.short
    | none => "key " ++ active.short ++ " activated"

/-- A key expires within a number of hours, of which the begun one does not count, neither before
the expiry nor after it. -/
def expiryWarning (vkId : Fingerprint) (expiresAt now : Instant) : RotationEvent where
  kind := .expiryWarning
  vkId
  previous := none
  expiresAt := some expiresAt
  message := "key " ++ vkId.short ++ " expires in "
    ++ toString ((expiresAt.since now).tdiv (3600 * Instant.nanosPerSecond)) ++ "h"

/-- A key has expired. -/
def expired (vkId : Fingerprint) (expiresAt : Instant) : RotationEvent where
  kind := .expired
  vkId
  previous := none
  expiresAt := some expiresAt
  message := "key " ++ vkId.short ++ " has expired"

/-- The members of an event. -/
def memberNames : List String := ["kind", "vk_id", "previous", "expires_at", "message"]

/-- An event as a JSON value; what it does not say is left out. -/
def toJson (e : RotationEvent) : Json.Value :=
  .objectOf [
    ("kind", some (.text e.kind.name)),
    ("vk_id", some e.vkId.toJson),
    ("previous", e.previous.map Fingerprint.toJson),
    ("expires_at", e.expiresAt.map Instant.toJson),
    ("message", some (.text e.message))]

/-- An event from a JSON value. -/
def ofJson? (t : Json.Tree) : Option RotationEvent := do
  match ← t.record? memberNames with
  | [kind, vkId, previous, expiresAt, message] =>
    return {
      kind := ← Record.required? (Json.Tree.name? RotationKind.names) kind
      vkId := ← Record.required? Fingerprint.ofJson? vkId
      previous := ← Record.withDefault? none (Json.Tree.optional? Fingerprint.ofJson?) previous
      expiresAt := ← Record.withDefault? none (Json.Tree.optional? Instant.ofJson?) expiresAt
      message := ← Record.required? Json.Tree.text? message }
  | _ => none

end RotationEvent

end ProofLogin
