import ProofLogin.Login.Config
import ProofLogin.Yaml.Record

/-!
# Login/ConfigFile — settings in a file

What `AuthConfig.toJson` writes can be written in YAML too. What a file does not say is as in the
default, and a member that is not known is passed over; a policy says all or is not there.
-/

namespace ProofLogin

/-- A policy from a node. -/
def Policy.ofNode? (d : Yaml.Document) (n : Yaml.Node) : Option Policy := do
  match ← d.record? memberNames n with
  | [year, age, memory, iterations] =>
    return {
      targetYear := ← Record.required? d.int32? year
      limitAge := ← Record.required? d.int32? age
      kdf := {
        memoryKiB := ← Record.required? d.uint32? memory
        iterations := ← Record.required? d.uint32? iterations } }
  | _ => none

/-- A schedule from a node. -/
def RotationSchedule.ofNode? (d : Yaml.Document) (n : Yaml.Node) : Option RotationSchedule := do
  match ← d.record? memberNames n with
  | [grace, lead, check] =>
    return {
      graceSeconds := ← Record.withDefault? default.graceSeconds d.uint64? grace
      leadSeconds := ← Record.withDefault? default.leadSeconds d.uint64? lead
      checkSeconds := ← Record.withDefault? default.checkSeconds d.uint64? check }
  | _ => none

namespace AuthConfig

/-- Settings from a node. -/
def ofNode? (d : Yaml.Document) (n : Yaml.Node) : Option AuthConfig := do
  match ← d.record? memberNames n with
  | [policy, ttl, replay, cleanup, rotation, mode] =>
    return {
      policy := ← Record.withDefault? default.policy (Policy.ofNode? d) policy
      challengeTtl := ← Record.withDefault? default.challengeTtl d.uint64? ttl
      replay := ← Record.withDefault? default.replay (d.name? ReplayProtection.names) replay
      replayCleanup := ← Record.withDefault? default.replayCleanup d.uint64? cleanup
      rotation := ← Record.withDefault? default.rotation (RotationSchedule.ofNode? d) rotation
      proofMode := ← Record.withDefault? default.proofMode (d.name? ProofMode.names) mode }
  | _ => none

/-- **Settings from the text of a settings file.** -/
def ofYaml? (s : String) : Option AuthConfig := do
  let d ← Yaml.Document.ofText? s
  ofNode? d d.root

end AuthConfig

end ProofLogin
