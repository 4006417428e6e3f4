import ProofLogin.Login.Bundle
import ProofLogin.Proof.Envelope
import ProofLogin.Proof.Transparent

/-!
# Login/Prover — the client's side of a login

A prover holds the proving key of its bundle, and perhaps one for age proofs. From a secret, a year
of birth, a salt and a challenge it makes the envelope of a login.
-/

namespace ProofLogin

/-- **The client's side**, over a proof system. -/
structure LoginProver (S : ProofSystem := .transparent) where
  authKey : S.ProvingKey
  bundle : PolicyBundle
  ageKey : Option (S.ProvingKey × Fingerprint)

namespace LoginProver

variable {S : ProofSystem}

/-- The prover of a login key and a bundle that is consistent. -/
def of (authKey : S.ProvingKey) (bundle : PolicyBundle) :
    Except LoginError (LoginProver S) := do
  (requireCircuit .auth (S.provingCircuit authKey)).mapError LoginError.setup
  if bundle.isConsistent then return ⟨authKey, bundle, none⟩
  else .error (.policyMismatch bundle.config.version bundle.paramsVersion)

/-- The prover with a key for age proofs, and the name of the key that they are verified with. -/
def withAgeKey (p : LoginProver S) (key : S.ProvingKey) (vkId : Fingerprint) :
    Except LoginError (LoginProver S) := do
  (requireCircuit .age (S.provingCircuit key)).mapError LoginError.setup
  return { p with ageKey := some (key, vkId) }

/-- A new commitment of a secret. -/
def calculateCommitment (p : LoginProver S) (secret : Bytes) (draw : Bytes32) :
    Except LoginError Commitment :=
  (Commitment.create secret p.bundle.config draw).mapError LoginError.ofCommitment

/-- **The envelope of a login.** -/
def proveLogin (p : LoginProver S) (secret : Bytes) (birthYear : Int32) (challenge : UInt64)
    (salt : String) : Except LoginError Envelope := do
  if secret = [] then .error (.missingArguments "secret")
  else if challenge = 0 then .error (.missingArguments "challenge")
  else
    let policy := p.bundle.config
    let salt ← (Salt.ofHex salt).mapError LoginError.ofCommitment
    let derived ← (Commitment.deriveWith secret salt policy).mapError LoginError.ofCommitment
    let commitment := Commitment.ofDerived derived salt
    let inputs := PublicInputs.auth (.of commitment salt challenge policy)
    let proof ← (S.prove p.authKey inputs (.auth derived birthYear)).mapError
      LoginError.proving
    return {
      proof
      proofVersion := Circuit.auth.proofVersion
      vkId := p.bundle.vkId
      paramsVersion := p.bundle.paramsVersion
      commitment := some commitment.toDecimal
      salt := some salt.toHex }

/-- **The envelope of an age proof.** -/
def proveAge (p : LoginProver S) (birthYear : Int32) : Except LoginError Envelope := do
  match p.ageKey with
  | none => .error (.missingArguments "age proving key")
  | some (key, vkId) =>
    let inputs := PublicInputs.age (.of p.bundle.config)
    let proof ← (S.prove key inputs (.age birthYear)).mapError LoginError.proving
    return {
      proof
      proofVersion := Circuit.age.proofVersion
      vkId := vkId.toHex
      paramsVersion := p.bundle.paramsVersion
      commitment := none
      salt := none }

/-- How a prover is shown in logs. -/
def inspect (p : LoginProver S) : String :=
  let age := match p.ageKey with
    | none => "None"
    | some (_, vkId) => "Some(" ++ Text.quoted vkId.toHex ++ ")"
  "AuthProver \x7b backend: " ++ S.backend.inspect ++ ", bundle: " ++ p.bundle.inspect ++ ", age: "
    ++ age ++ " \x7d"

end LoginProver

end ProofLogin
