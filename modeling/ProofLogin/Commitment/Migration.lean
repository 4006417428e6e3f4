import ProofLogin.Commitment.Basic

/-!
# Commitment/Migration — commitments under new costs

When the cost of the derivation changes, every stored commitment has to be made again from its
secret. A migration computes the old and the new commitment under one salt; a verified one also
compares the old commitment with the stored text. A batch runs through a list of users and reports
each of them once: with both commitments, or with what went wrong.
-/

namespace ProofLogin

/-! ## One commitment -/

/-- **The costs before and after a migration.** -/
structure MigrationCosts where
  old : KdfCost
  new : KdfCost
  deriving DecidableEq, Repr

namespace MigrationCosts

/-- From one pass to three. -/
def default : MigrationCosts := ⟨⟨65536, 1⟩, ⟨65536, 3⟩⟩

/-- From the cost of one policy to the cost of another. -/
def between (old new : Policy) : MigrationCosts :=
  ⟨old.kdf, new.kdf⟩

/-- The policies before and after, which differ from `base` in their costs only. -/
def policies (c : MigrationCosts) (base : Policy) : Policy × Policy :=
  ({ base with kdf := c.old }, { base with kdf := c.new })

/-- The members of a pair of costs. -/
def memberNames : List String := ["old", "new"]

/-- A pair of costs as a JSON value. -/
def toJson (c : MigrationCosts) : Json.Value :=
  .object [("old", c.old.toJson), ("new", c.new.toJson)]

/-- A pair of costs from a JSON value. -/
def ofJson? (t : Json.Tree) : Option MigrationCosts := do
  match ← t.record? memberNames with
  | [old, new] =>
    return ⟨← Record.required? KdfCost.ofJson? old, ← Record.required? KdfCost.ofJson? new⟩
  | _ => none

end MigrationCosts

/-- **Both commitments of one secret.** -/
structure MigrationOutcome where
  oldCommitment : FieldElement
  newCommitment : FieldElement
  deriving DecidableEq

namespace MigrationOutcome

/-- The members of an outcome. -/
def memberNames : List String := ["old_commitment", "new_commitment"]

/-- An outcome as members of an object. -/
def members (o : MigrationOutcome) : List (String × Json.Value) :=
  [("old_commitment", o.oldCommitment.toJson), ("new_commitment", o.newCommitment.toJson)]

/-- An outcome as a JSON value. -/
def toJson (o : MigrationOutcome) : Json.Value :=
  .object o.members

/-- An outcome from a JSON value. -/
def ofJson? (t : Json.Tree) : Option MigrationOutcome := do
  match ← t.record? memberNames with
  | [old, new] =>
    return ⟨← Record.required? FieldElement.ofJson? old,
      ← Record.required? FieldElement.ofJson? new⟩
  | _ => none

end MigrationOutcome

/-- **Both commitments of a secret**, the old one first. -/
def migrate (secret : Bytes) (salt : String) (old new : Policy) :
    Except CommitmentError MigrationOutcome := do
  let salt ← Salt.ofHex salt
  return {
    oldCommitment := ← Commitment.commitWith secret salt old
    newCommitment := ← Commitment.commitWith secret salt new }

/-- **Both commitments of a secret, if the old one is the one expected.** The expected text is read
first, and its octets are compared with those of the old commitment before the new one is made. -/
def verifyAndMigrate (secret : Bytes) (salt expected : String) (old new : Policy) :
    Except CommitmentError MigrationOutcome := do
  let expected ← FieldElement.ofDecimal expected
  let salt ← Salt.ofHex salt
  let oldCommitment ← Commitment.commitWith secret salt old
  if oldCommitment.toBytes = expected.toBytes then
    return { oldCommitment, newCommitment := ← Commitment.commitWith secret salt new }
  else .error .commitmentMismatch

/-! ## A batch of users -/

/-- **A user to migrate.** The stored commitment may be missing. -/
structure MigrationEntry where
  userId : String
  secret : String
  salt : String
  oldCommitment : Option String
  deriving DecidableEq

namespace MigrationEntry

/-- The members of an entry. -/
def memberNames : List String := ["user_id", "secret", "salt", "old_commitment"]

/-- An entry as a JSON value. -/
def toJson (e : MigrationEntry) : Json.Value :=
  .object [
    ("user_id", .text e.userId),
    ("secret", .text e.secret),
    ("salt", .text e.salt),
    ("old_commitment", .ofOption .text e.oldCommitment)]

/-- An entry from a JSON value. -/
def ofJson? (t : Json.Tree) : Option MigrationEntry := do
  match ← t.record? memberNames with
  | [userId, secret, salt, old] =>
    return {
      userId := ← Record.required? Json.Tree.text? userId
      secret := ← Record.required? Json.Tree.text? secret
      salt := ← Record.required? Json.Tree.text? salt
      oldCommitment := ← Record.withDefault? none (Json.Tree.optional? Json.Tree.text?) old }
  | _ => none

/-- How an entry is shown in logs, without its secret. -/
def inspect (e : MigrationEntry) : String :=
  let old := match e.oldCommitment with
    | none => "None"
    | some s => "Some(" ++ Text.quoted s ++ ")"
  "MigrationEntry \x7b user_id: " ++ Text.quoted e.userId ++ ", secret: \"<redacted>\", salt: "
    ++ Text.quoted e.salt ++ ", old_commitment: " ++ old ++ " \x7d"

/-- The migration of an entry: verified, unless there is no stored commitment to compare with. -/
def run (e : MigrationEntry) (old new : Policy) : Except CommitmentError MigrationOutcome :=
  let secret := Utf8.encode e.secret
  match e.oldCommitment with
  | none => migrate secret e.salt old new
  | some expected =>
    if expected = "" then migrate secret e.salt old new
    else verifyAndMigrate secret e.salt expected old new

end MigrationEntry

/-- **A user whose commitments have been made.** -/
structure MigratedUser where
  userId : String
  outcome : MigrationOutcome
  deriving DecidableEq

namespace MigratedUser

/-- A user as a JSON value, the commitments beside the name. -/
def toJson (u : MigratedUser) : Json.Value :=
  .object (("user_id", .text u.userId) :: u.outcome.members)

/-- A user from a JSON value nested no deeper than `room`. It has to be an object, and its unknown
members have to be values too. -/
def ofJson? (room : Nat) (t : Json.Tree) : Option MigratedUser := do
  match t with
  | .object members =>
    let _ ← Json.Value.ofTree? room t
    match ← Json.Tree.members? ["user_id", "old_commitment", "new_commitment"] members with
    | [userId, old, new] =>
      return {
        userId := ← Record.required? Json.Tree.text? userId
        outcome :=
          ⟨← Record.required? FieldElement.ofJson? old,
            ← Record.required? FieldElement.ofJson? new⟩ }
    | _ => none
  | _ => none

end MigratedUser

/-- **A user whose commitments could not be made.** -/
structure MigrationFailure where
  userId : String
  code : String
  error : String
  deriving DecidableEq

namespace MigrationFailure

/-- The members of a failure. -/
def memberNames : List String := ["user_id", "code", "error"]

/-- A failure as a JSON value. -/
def toJson (f : MigrationFailure) : Json.Value :=
  .object [("user_id", .text f.userId), ("code", .text f.code), ("error", .text f.error)]

/-- A failure from a JSON value. -/
def ofJson? (t : Json.Tree) : Option MigrationFailure := do
  match ← t.record? memberNames with
  | [userId, code, error] =>
    return ⟨← Record.required? Json.Tree.text? userId, ← Record.required? Json.Tree.text? code,
      ← Record.required? Json.Tree.text? error⟩
  | _ => none

end MigrationFailure

/-- **The report of a batch.** -/
structure MigrationReport where
  successful : List MigratedUser
  failed : List MigrationFailure
  deriving DecidableEq

namespace MigrationReport

/-- The number of users of a batch. -/
def total (r : MigrationReport) : Nat :=
  r.successful.length + r.failed.length

/-- The report with one user more. -/
def push (r : MigrationReport) (userId : String) :
    Except CommitmentError MigrationOutcome → MigrationReport
  | .ok outcome => { r with successful := r.successful ++ [⟨userId, outcome⟩] }
  | .error e => { r with failed := r.failed ++ [⟨userId, e.code.number, e.message⟩] }

/-- **The report on a list of users**, in their order. -/
def ofEntries (costs : MigrationCosts) (base : Policy) (entries : List MigrationEntry) :
    MigrationReport :=
  let (old, new) := costs.policies base
  entries.foldl (fun r e => r.push e.userId (e.run old new)) ⟨[], []⟩

/-- The members of a report. -/
def memberNames : List String := ["successful", "failed"]

/-- A report as a JSON value. -/
def toJson (r : MigrationReport) : Json.Value :=
  .object [
    ("successful", .array (r.successful.map MigratedUser.toJson)),
    ("failed", .array (r.failed.map MigrationFailure.toJson))]

/-- A report from a JSON value. A user stands two levels below the report. -/
def ofJson? (t : Json.Tree) : Option MigrationReport := do
  match ← t.record? memberNames with
  | [successful, failed] =>
    return {
      successful := ← Record.required?
        (Json.Tree.list? (MigratedUser.ofJson? (Json.Value.deepest - 2))) successful
      failed := ← Record.required? (Json.Tree.list? MigrationFailure.ofJson?) failed }
  | _ => none

end MigrationReport

end ProofLogin
