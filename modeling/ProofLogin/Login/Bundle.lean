import ProofLogin.Fingerprint
import ProofLogin.Login.Error
import ProofLogin.Policy

/-!
# Login/Bundle — a policy with the key that goes with it

A client gets its policy as a bundle with the version of the policy and the name of the key. Both
are compared with what a login presents; a login may leave either of them empty.
-/

namespace ProofLogin

/-- **A policy, its version and the name of a key.** -/
structure PolicyBundle where
  config : Policy
  paramsVersion : String
  vkId : String
  deriving DecidableEq, Repr

namespace PolicyBundle

/-- The bundle of a policy and a key. -/
def of (policy : Policy) (vkId : Fingerprint) : PolicyBundle :=
  ⟨policy, policy.version, vkId.toHex⟩

/-- The version is the one of the policy. -/
def isConsistent (b : PolicyBundle) : Bool :=
  b.paramsVersion == b.config.version

/-- The members of a bundle. -/
def memberNames : List String := ["config", "params_version", "vk_id"]

/-- A bundle as a JSON value. -/
def toJson (b : PolicyBundle) : Json.Value :=
  .object [
    ("config", b.config.toJson),
    ("params_version", .text b.paramsVersion),
    ("vk_id", .text b.vkId)]

/-- A bundle from a JSON value. -/
def ofJson? (t : Json.Tree) : Option PolicyBundle := do
  match ← t.record? memberNames with
  | [config, paramsVersion, vkId] =>
    return {
      config := ← Record.required? Policy.ofJson? config
      paramsVersion := ← Record.required? Json.Tree.text? paramsVersion
      vkId := ← Record.required? Json.Tree.text? vkId }
  | _ => none

/-- **What a login presents agrees with the bundle**, the key first. -/
def enforce (b : PolicyBundle) (vkId paramsVersion : String) : Except LoginError Unit :=
  if vkId ≠ "" ∧ vkId ≠ b.vkId then .error (.keyMismatch b.vkId vkId)
  else if paramsVersion ≠ "" ∧ paramsVersion ≠ b.paramsVersion then
    .error (.policyMismatch b.paramsVersion paramsVersion)
  else .ok ()

/-- How a bundle is shown in logs. -/
def inspect (b : PolicyBundle) : String :=
  "PolicyBundle \x7b config: " ++ b.config.inspect ++ ", params_version: "
    ++ Text.quoted b.paramsVersion ++ ", vk_id: " ++ Text.quoted b.vkId ++ " \x7d"

end PolicyBundle

end ProofLogin
