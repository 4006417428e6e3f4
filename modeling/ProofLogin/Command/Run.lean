import ProofLogin.Command.Arguments
import ProofLogin.Command.Error
import ProofLogin.Command.Host
import ProofLogin.Login.Bundle
import ProofLogin.Login.ConfigFile
import ProofLogin.Proof.Key

/-!
# Command/Run — what the commands do

Every command runs under settings, which are read first. What is computed is computed by pure
functions: `KeyReport.ofBytes?`, `commitmentFor`, `MigrationSubject`'s migrations, `tokenFor` and
`Inspection.of`; the rest reads what they need and prints what they give.
-/

namespace ProofLogin

/-! ## Key files -/

/-- **What the octets of a key file hold.** -/
structure KeyReport where
  role : KeyRole
  circuit : Circuit
  fingerprint : Fingerprint
  deriving DecidableEq

namespace KeyReport

/-- **The report on octets that are a key**, for verifying or for proving. -/
def ofBytes? (bs : Bytes) : Option KeyReport :=
  match VerifyingKey.ofBytes bs, ProvingKey.ofBytes bs with
  | .ok k, _ => some ⟨.verifying, k.circuit, k.fingerprint⟩
  | _, .ok k => some ⟨.proving, k.circuit, k.fingerprint⟩
  | _, _ => none

/-- The key verifies logins. -/
def verifiesLogins (r : KeyReport) : Bool :=
  r.role = .verifying && r.circuit = .auth

/-- A report as a JSON value. -/
def toJson (r : KeyReport) : Json.Value :=
  .object [
    ("kind", .text r.role.name),
    ("circuit", .text r.circuit.name),
    ("fingerprint", r.fingerprint.toJson)]

end KeyReport

/-- The name of a file in a folder. -/
def fileIn (folder name : String) : String :=
  if folder.endsWith "/" then folder ++ name else folder ++ "/" ++ name

/-! ## Tokens -/

/-- **The claims of a token that is asked for**, under a policy. The time to live has to be
positive, and the token has to end before time does. -/
def claimsFor (request : TokenRequest) (policy : Policy) (ttl challenge : UInt64) (now : Int64) :
    Except CommandError Claims :=
  if ttl = 0 then .error .ttlZero
  else if 0x8000000000000000 ≤ ttl.toNat then .error .ttlTooLarge
  else if Int64.maxValue.toInt < now.toInt + ttl.toNat then .error .expiryTooLarge
  else .ok {
    Claims.of request.userId challenge (Int64.ofInt (now.toInt + ttl.toNat)) with
    vkId := request.vkId
    paramsVersion := policy.version }

/-- **What a look at a token finds**: its claims, and why they do not hold now. -/
structure Inspection where
  claims : Claims
  fault : Option TokenError
  deriving DecidableEq

namespace Inspection

/-- The look at a token that a key has signed. -/
def of (token : String) (key : TokenKey) (policy : Policy) (now : Int64) :
    Except CommandError Inspection := do
  let claims ← (Token.parse token key).mapError .tokenRejected
  match Token.validate token key now "" policy.version with
  | .ok _ => return ⟨claims, none⟩
  | .error e => return ⟨claims, some e⟩

/-- An inspection as a JSON value. -/
def toJson (i : Inspection) : Json.Value :=
  .objectOf [
    ("claims", some i.claims.toJson),
    ("valid", some (.bool i.fault.isNone)),
    ("error", i.fault.map (.text ·.message))]

end Inspection

/-! ## Commitments -/

/-- **The commitment of a secret**, under the salt that is given or else under the one of a draw. -/
def commitmentFor (secret : String) (salt : Option String) (policy : Policy) (draw : Bytes32) :
    Except CommandError Commitment :=
  let secret := Utf8.encode secret
  match salt with
  | none => (Commitment.create secret policy draw).mapError .commitmentFailed
  | some text => do
    let salt ← (Salt.ofHex text).mapError .saltInvalid
    let value ← (Commitment.commitWith secret salt policy).mapError .commitmentFailed
    return ⟨value, salt⟩

/-- Both commitments of a secret. -/
def outcomeFor (secret salt : String) (expected : Option String) (old new : Policy) :
    Except CommandError MigrationOutcome :=
  match expected with
  | none => (migrate (Utf8.encode secret) salt old new).mapError .migrationFailed
  | some text => (verifyAndMigrate (Utf8.encode secret) salt text old new).mapError .notReproduced

/-- Costs that a migration can be run with, the old one first. -/
def checkCosts (costs : MigrationCosts) : Except CommandError Unit := do
  costs.old.validate.mapError .oldCostInvalid
  costs.new.validate.mapError .newCostInvalid

/-- The lines on a batch: who was migrated, who was not and why, and how many were. -/
def reportLines (r : MigrationReport) : List String :=
  (r.successful.map fun u => "  OK    " ++ u.userId ++ ": " ++ u.outcome.newCommitment.toDecimal)
    ++ (r.failed.map fun f => "  FAIL  " ++ f.userId ++ ": [" ++ f.code ++ "] " ++ f.error)
    ++ ["Migrated " ++ toString r.successful.length ++ "/" ++ toString r.total ++ " users"]

/-! ## Running -/

section

variable {m : Type → Type} [Monad m] (h : Host m)

/-- A step of a command: it goes on, or the command fails. -/
abbrev CommandStep (m : Type → Type) := ExceptT CommandError m

/-- A result as a step. -/
def ofResult {ε α : Type} (r : Except ε α) (f : ε → CommandError) : CommandStep m α :=
  ExceptT.mk (pure (r.mapError f))

/-- The octets of a file. -/
def readFile (path : String) (f : FileFault → CommandError) : CommandStep m Bytes := do
  ofResult (← h.read path) f

/-- The text of a file. -/
def readText (path : String) (f : FileFault → CommandError) : CommandStep m String := do
  match Utf8.decode? (← readFile h path f) with
  | some s => return s
  | none => throw (f .notText)

/-- One line of output. -/
def printLine (s : String) : CommandStep m Unit :=
  ExceptT.lift (h.print s)

/-- A value, one member a line. -/
def printJson (v : Json.Value) : CommandStep m Unit :=
  printLine h v.renderPretty

/-- **The settings**: of the file, if one is named, with the environment over them. -/
def loadConfig (path : Option String) : CommandStep m AuthConfig := do
  let base ← match path with
    | none => pure AuthConfig.default
    | some path => do
      match AuthConfig.ofYaml? (← readText h path (.configUnread path)) with
      | some config => pure config
      | none => throw .configMalformed
  ofResult (base.overlay h.setting?) .configInvalid

/-- The report on a key file. -/
def readKey (path : String) : CommandStep m KeyReport := do
  match KeyReport.ofBytes? (← readFile h path (.keyUnread path)) with
  | some report => return report
  | none => throw (.notAKey path)

/-- A key that goes into a file. -/
def writeKey (path : String) (bs : Bytes) : CommandStep m Unit := do
  ofResult (← h.write path bs) (.keyUnwritten path)
  printLine h ("  Written: " ++ path)

/-- A new pair of keys for a circuit, written to two files. -/
def setupPair (folder name : String) (circuit : Circuit) : CommandStep m Unit := do
  let (pk, vk) := KeyMaterial.pair circuit (← ExceptT.lift h.random)
  writeKey h (fileIn folder (name ++ ".pk")) pk.toBytes
  writeKey h (fileIn folder (name ++ ".vk")) vk.toBytes
  printLine h ("  " ++ circuit.name ++ " pk_id: " ++ pk.fingerprint.toHex)
  printLine h ("  " ++ circuit.name ++ " vk_id: " ++ vk.fingerprint.toHex)

/-- The key that signs tokens. -/
def loadTokenKey (source : KeySource) : CommandStep m TokenKey := do
  let hex ← match source with
    | .text hex => pure hex
    | .file path => readText h path (.tokenKeyUnread path)
    | .missing => throw .tokenKeyMissing
  ofResult (TokenKey.ofHex hex) .tokenKeyInvalid

/-- The random numbers of a token. -/
def drawToken : CommandStep m Draw := do
  let nonce ← ExceptT.lift h.random
  let id ← ExceptT.lift h.random
  let challenge ← ExceptT.lift h.random
  return ⟨nonce.toBytes.toNat, id.toBytes.toNat, challenge.toBytes.toNat⟩

/-- The time that is asked for, or else the time. -/
def timeOr (now : Option Int64) : CommandStep m Int64 :=
  match now with
  | some now => pure now
  | none => ExceptT.lift h.now

/-- **A command under its settings**, with its exit code. -/
def Command.run (config : AuthConfig) : Command → CommandStep m Nat
  | .setupKeys folder => do
    ofResult (← h.makeFolder folder) (.folderNotMade folder)
    setupPair h folder "user" .auth
    setupPair h folder "age" .age
    printLine h "OK: generated keys for the auth and age circuits"
    return 0
  | .fingerprint path => do
    printJson h (← readKey h path).toJson
    return 0
  | .commit secret salt json => do
    let draw ← ExceptT.lift h.random
    let c ← ofResult (commitmentFor secret salt config.policy draw) id
    if json then
      printJson h (.object [
        ("commitment", c.toJson), ("params_version", .text config.policy.version)])
    else
      printLine h ("Commitment: " ++ c.value.toDecimal)
      printLine h ("Salt:       " ++ c.salt.toHex)
      printLine h ("Params:     " ++ config.policy.version)
    return 0
  | .migrate costs subject json => do
    ofResult (checkCosts costs) id
    match subject with
    | .secret secret salt expected =>
      let (old, new) := costs.policies config.policy
      let outcome ← ofResult (outcomeFor secret salt expected old new) id
      if json then printJson h outcome.toJson
      else
        printLine h ("Old commitment: " ++ outcome.oldCommitment.toDecimal)
        printLine h ("New commitment: " ++ outcome.newCommitment.toDecimal)
        printLine h ("New params:     " ++ new.version)
      return 0
    | .batch path =>
      let text ← readText h path (.batchUnread path)
      match (Json.Tree.ofText? text).bind (Json.Tree.list? MigrationEntry.ofJson?) with
      | none => throw .batchMalformed
      | some entries =>
        let report := MigrationReport.ofEntries costs config.policy entries
        if json then printJson h report.toJson
        else (reportLines report).forM (printLine h)
        return if report.failed.isEmpty then 0 else 1
  | .policy none => do
    printJson h (PolicyBundle.mk config.policy config.policy.version "").toJson
    return 0
  | .policy (some path) => do
    let report ← readKey h path
    if report.verifiesLogins then
      printJson h (PolicyBundle.of config.policy report.fingerprint).toJson
      return 0
    else throw (.notALoginKey path)
  | .issueToken source request => do
    let key ← loadTokenKey h source
    let draw ← drawToken h
    let now ← timeOr h request.now
    let ttl := request.ttl.getD config.challengeTtl
    let challenge := request.challenge.getD draw.challengeNumber
    let claims ← ofResult (claimsFor request config.policy ttl challenge now) id
    printLine h (← ofResult (Token.issue claims key request.keyId draw) .issuanceFailed)
    return 0
  | .inspectToken source token now => do
    let key ← loadTokenKey h source
    let now ← timeOr h now
    let inspection ← ofResult (Inspection.of token key config.policy now) id
    printJson h inspection.toJson
    return if inspection.fault.isNone then 0 else 1

/-- **What an operator asks for, done.** -/
def run (args : List String) : m Ending := do
  match Arguments.read? args with
  | none => return .misused
  | some invocation =>
    let steps : CommandStep m Nat := do
      invocation.command.run h (← loadConfig h invocation.config)
    match ← steps.run with
    | .ok code => return .done code
    | .error error => return .failed error

end

end ProofLogin
