import ProofLogin.Fingerprint
import ProofLogin.Proof.Backend
import ProofLogin.Proof.Circuit
import ProofLogin.Proof.Error

/-!
# Proof/System — what a login asks of a way to prove

A deployment brings its own way to prove statements. All that a login knows of it is here: which
kind of backend it is, for which circuit a key is, under which name a verifying key is known, and
how a proof is made and checked. The octets of a proof are looked at by the system alone.
-/

namespace ProofLogin

/-- **A proof system.** -/
structure ProofSystem where
  backend : ProofBackend
  ProvingKey : Type
  VerifyingKey : Type
  provingCircuit : ProvingKey → Circuit
  verifyingCircuit : VerifyingKey → Circuit
  /-- The name of a verifying key. -/
  fingerprint : VerifyingKey → Fingerprint
  /-- The proof of a statement with a witness. -/
  prove : ProvingKey → PublicInputs → Witness → Except ProvingError Bytes
  /-- The check of a proof. -/
  verify : VerifyingKey → PublicInputs → Bytes → Except VerificationError Unit

/-- The error for a key of another circuit than the one that is needed. -/
def requireCircuit (needed held : Circuit) : Except SetupError Unit :=
  if held = needed then .ok ()
  else .error (.keyParse ("expected a " ++ needed.name ++ " key, got a " ++ held.name ++ " key"))

end ProofLogin
