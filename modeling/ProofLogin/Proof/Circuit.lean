import ProofLogin.Commitment.Basic
import ProofLogin.Json.Canonical

/-!
# Proof/Circuit — the statements that are proved

The login circuit says: I know the secret behind this commitment, this binding ties the commitment
to the challenge, and I am old enough. The age circuit says only the last. What a prover and a
verifier both see are the public inputs, what only the prover has is the witness; `Circuit.check`
decides whether the two satisfy the statement.
-/

namespace ProofLogin

/-- **A circuit.** -/
inductive Circuit where
  | auth
  | age
  deriving DecidableEq, Repr

namespace Circuit

/-- The name of a circuit. -/
def name : Circuit → String
  | .auth => "auth"
  | .age => "age"

/-- The circuits by their names. -/
def names : List (String × Circuit) := [("auth", .auth), ("age", .age)]

/-- The version that proofs for a circuit carry. -/
def proofVersion : Circuit → String
  | .auth => "auth-proof-v1"
  | .age => "age-proof-v1"

/-- The circuit whose proofs carry a version. -/
def ofProofVersion? (version : String) : Option Circuit :=
  if version = auth.proofVersion then some .auth
  else if version = age.proofVersion then some .age
  else none

/-- **The statement of a circuit**, as a text. -/
def statement : Circuit → String
  | .auth =>
    "public(commitment,binding,salt,target_year,limit_age,challenge);"
      ++ "private(derived_secret,birth_year);"
      ++ "mimc(derived_secret,salt)==commitment;"
      ++ "mimc(commitment,challenge)==binding;"
      ++ "target_year-birth_year>=limit_age"
  | .age =>
    "public(target_year,limit_age);"
      ++ "private(birth_year);"
      ++ "target_year-birth_year>=limit_age"

/-- The digest of the statement. -/
def digest (c : Circuit) : Bytes32 :=
  Sha256.hash (Utf8.encode c.statement)

end Circuit

/-! ## Public inputs and witnesses -/

/-- **What both sides of a login see.** -/
structure AuthInputs where
  commitment : FieldElement
  binding : FieldElement
  salt : FieldElement
  targetYear : Int32
  limitAge : Int32
  challenge : UInt64
  deriving DecidableEq

/-- The inputs for a commitment and a challenge under a policy. -/
def AuthInputs.of (commitment : FieldElement) (salt : Salt) (challenge : UInt64) (policy : Policy) :
    AuthInputs where
  commitment
  binding := Commitment.bind commitment challenge
  salt := salt.toField
  targetYear := policy.targetYear
  limitAge := policy.limitAge
  challenge

/-- **What both sides of an age proof see.** -/
structure AgeInputs where
  targetYear : Int32
  limitAge : Int32
  deriving DecidableEq, Repr

/-- The inputs under a policy. -/
def AgeInputs.of (policy : Policy) : AgeInputs :=
  ⟨policy.targetYear, policy.limitAge⟩

/-- **The public inputs of a circuit.** -/
inductive PublicInputs where
  | auth (inputs : AuthInputs)
  | age (inputs : AgeInputs)
  deriving DecidableEq

/-- **What only the prover has.** -/
inductive Witness where
  | auth (derivedSecret : FieldElement) (birthYear : Int32)
  | age (birthYear : Int32)
  deriving DecidableEq

namespace Witness

/-- The circuit of a witness. -/
def circuit : Witness → Circuit
  | .auth .. => .auth
  | .age _ => .age

/-- How a witness is shown in logs. -/
def inspect (w : Witness) : String :=
  "Witness(" ++ w.circuit.name ++ ", <redacted>)"

end Witness

namespace PublicInputs

/-- The circuit of the inputs. -/
def circuit : PublicInputs → Circuit
  | .auth _ => .auth
  | .age _ => .age

/-- Public inputs as a JSON value, which names the circuit. -/
def toJson : PublicInputs → Json.Value
  | .auth p => .object [
      ("circuit", .text Circuit.auth.name),
      ("commitment", p.commitment.toJson),
      ("binding", p.binding.toJson),
      ("salt", p.salt.toJson),
      ("target_year", .ofInt32 p.targetYear),
      ("limit_age", .ofInt32 p.limitAge),
      ("challenge", .ofUInt64 p.challenge)]
  | .age p => .object [
      ("circuit", .text Circuit.age.name),
      ("target_year", .ofInt32 p.targetYear),
      ("limit_age", .ofInt32 p.limitAge)]

/-- The canonical octets of public inputs. -/
def canonicalBytes (p : PublicInputs) : Bytes :=
  p.toJson.canonicalBytes

/-- The members of the inputs of a circuit. -/
def memberNames : Circuit → List String
  | .auth => ["commitment", "binding", "salt", "target_year", "limit_age", "challenge"]
  | .age => ["target_year", "limit_age"]

/-- The inputs of a circuit from their members. -/
def ofMembers? : Circuit → List (Option Json.Tree) → Option PublicInputs
  | .auth, [commitment, binding, salt, year, limit, challenge] => do
    return .auth {
      commitment := ← Record.required? FieldElement.ofJson? commitment
      binding := ← Record.required? FieldElement.ofJson? binding
      salt := ← Record.required? FieldElement.ofJson? salt
      targetYear := ← Record.required? Json.Tree.int32? year
      limitAge := ← Record.required? Json.Tree.int32? limit
      challenge := ← Record.required? Json.Tree.uint64? challenge }
  | .age, [year, limit] => do
    return .age ⟨← Record.required? Json.Tree.int32? year,
      ← Record.required? Json.Tree.int32? limit⟩
  | _, _ => none

/-- The circuit that an object names, exactly once, and its other members. -/
def splitTag? : List (Bytes × Json.Tree) → Option (Json.Tree × List (Bytes × Json.Tree))
  | [] => none
  | (key, t) :: ms => do
    if (← Json.unescape? key) = "circuit" then
      if (← ms.mapM fun m => Json.unescape? m.1).contains "circuit" then none
      else some (t, ms)
    else
      let (tag, ms) ← splitTag? ms
      some (tag, (key, t) :: ms)

/-- **Public inputs from a JSON value.** The circuit may be named anywhere in an object, and comes
first in an array. Unknown members have to be values too. -/
def ofJson? (t : Json.Tree) : Option PublicInputs := do
  let _ ← Json.Value.ofTree? Json.Value.deepest t
  let (tag, inputs) ← match t with
    | .object members => (splitTag? members).map fun (tag, ms) => (tag, Json.Tree.object ms)
    | .array (tag :: items) => some (tag, .array items)
    | _ => none
  let circuit ← Circuit.names.lookup (← tag.text?)
  ofMembers? circuit (← inputs.record? (memberNames circuit))

end PublicInputs

/-! ## Satisfaction -/

/-- **What is not satisfied.** -/
inductive Unsatisfied where
  | commitment
  | binding
  | age
  | circuitMismatch
  deriving DecidableEq, Repr

/-- The words for what is not satisfied. -/
def Unsatisfied.message : Unsatisfied → String
  | .commitment => "commitment constraint not satisfied"
  | .binding => "binding constraint not satisfied"
  | .age => "age constraint not satisfied"
  | .circuitMismatch => "public inputs and witness are for different circuits"

namespace Circuit

/-- Someone born in a year is old enough in the year that counts. The difference is taken over the
integers. -/
def isOfAge (targetYear limitAge birthYear : Int32) : Bool :=
  limitAge.toInt ≤ targetYear.toInt - birthYear.toInt

/-- **A witness for public inputs**, or the first constraint that it does not satisfy. -/
def check : PublicInputs → Witness → Except Unsatisfied Unit
  | .auth p, .auth derivedSecret birthYear =>
    if Mimc.hash2 derivedSecret p.salt ≠ p.commitment then .error .commitment
    else if Commitment.bind p.commitment p.challenge ≠ p.binding then .error .binding
    else if isOfAge p.targetYear p.limitAge birthYear then .ok ()
    else .error .age
  | .age p, .age birthYear =>
    if isOfAge p.targetYear p.limitAge birthYear then .ok () else .error .age
  | _, _ => .error .circuitMismatch

end Circuit

end ProofLogin
