import ProofLogin.Digest.Argon2id
import ProofLogin.Digest.Sha256
import ProofLogin.Encoding.Hex
import ProofLogin.Json.Record
import ProofLogin.ParameterError

/-!
# Policy — what clients and servers have to agree on

A policy says in which year an age counts, what age is asked for, and what the derivation of a
secret costs. Its `version` is the digest of its four numbers: two sides that name the same version
use the same policy.
-/

namespace ProofLogin

/-! ## Costs of the derivation -/

/-- **What the derivation of a secret costs**: memory in KiB, and passes over it. -/
structure KdfCost where
  memoryKiB : UInt32
  iterations : UInt32
  deriving DecidableEq, Repr

namespace KdfCost

/-- The cost that is used where none is given. -/
def default : KdfCost := ⟨65536, 3⟩

/-- The least memory: eight KiB for each of the four lanes. -/
def leastMemoryKiB : UInt32 := 32

/-- A cost that the derivation can be run with. -/
def validate (c : KdfCost) : Except ParameterError Unit :=
  if c.iterations = 0 then
    .error (.invalidConfig "argon_iterations must be at least 1")
  else if c.memoryKiB < leastMemoryKiB then
    .error <| .invalidConfig <|
      "argon_memory must be at least " ++ toString leastMemoryKiB.toNat ++ " KiB, got "
        ++ toString c.memoryKiB.toNat
  else .ok ()

/-- The same cost for the memory-hard digest. -/
def toArgon2id (c : KdfCost) : Argon2id.Cost :=
  ⟨c.memoryKiB.toNat, c.iterations.toNat⟩

/-- The members of a cost. -/
def memberNames : List String := ["memory_kib", "iterations"]

/-- A cost as a JSON value. -/
def toJson (c : KdfCost) : Json.Value :=
  .object [("memory_kib", .ofUInt32 c.memoryKiB), ("iterations", .ofUInt32 c.iterations)]

/-- A cost from a JSON value. -/
def ofJson? (t : Json.Tree) : Option KdfCost := do
  match ← t.record? memberNames with
  | [memory, iterations] =>
    return {
      memoryKiB := ← Record.required? Json.Tree.uint32? memory
      iterations := ← Record.required? Json.Tree.uint32? iterations }
  | _ => none

end KdfCost

/-! ## Policies -/

/-- **A policy.** -/
structure Policy where
  targetYear : Int32
  limitAge : Int32
  kdf : KdfCost
  deriving DecidableEq, Repr

namespace Policy

/-- The policy that is used where none is given. -/
def default : Policy := ⟨2025, 20, .default⟩

/-- The text whose digest is the version: the four numbers with a hyphen between each two. -/
def versionText (p : Policy) : String :=
  toString p.targetYear.toInt ++ "-" ++ toString p.limitAge.toInt ++ "-"
    ++ toString p.kdf.memoryKiB.toNat ++ "-" ++ toString p.kdf.iterations.toNat

/-- **The version of a policy.** -/
def version (p : Policy) : String :=
  Hex.encode (Sha256.hash (Utf8.encode p.versionText)).toBytes

/-- A policy under which ages make sense and secrets can be derived. -/
def validate (p : Policy) : Except ParameterError Unit :=
  if p.limitAge < 0 then
    .error (.invalidConfig ("limit_age must be non-negative, got " ++ toString p.limitAge.toInt))
  else if p.targetYear ≤ 0 then
    .error (.invalidConfig ("target_year must be positive, got " ++ toString p.targetYear.toInt))
  else p.kdf.validate

/-- How a policy is shown in logs. -/
def inspect (p : Policy) : String :=
  "SharedPolicy \x7b target_year: " ++ toString p.targetYear.toInt ++ ", limit_age: "
    ++ toString p.limitAge.toInt ++ ", kdf_memory_kib: " ++ toString p.kdf.memoryKiB.toNat
    ++ ", kdf_iterations: " ++ toString p.kdf.iterations.toNat ++ " \x7d"

/-- The members of a policy. -/
def memberNames : List String := ["target_year", "limit_age", "argon_memory", "argon_iterations"]

/-- A policy as a JSON value. -/
def toJson (p : Policy) : Json.Value :=
  .object [
    ("target_year", .ofInt32 p.targetYear),
    ("limit_age", .ofInt32 p.limitAge),
    ("argon_memory", .ofUInt32 p.kdf.memoryKiB),
    ("argon_iterations", .ofUInt32 p.kdf.iterations)]

/-- A policy from a JSON value. -/
def ofJson? (t : Json.Tree) : Option Policy := do
  match ← t.record? memberNames with
  | [year, age, memory, iterations] =>
    return {
      targetYear := ← Record.required? Json.Tree.int32? year
      limitAge := ← Record.required? Json.Tree.int32? age
      kdf := {
        memoryKiB := ← Record.required? Json.Tree.uint32? memory
        iterations := ← Record.required? Json.Tree.uint32? iterations } }
  | _ => none

end Policy

end ProofLogin
