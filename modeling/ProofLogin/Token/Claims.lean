import ProofLogin.Json.Canonical
import ProofLogin.Json.Record

/-!
# Token/Claims — what a challenge token says

A token says for whom a challenge is and until when, under which key and policy it is to be
answered, and by which identifier it is remembered once it has been used. Empty texts say nothing.
-/

namespace ProofLogin

/-- **The claims of a token.** -/
structure Claims where
  userId : String
  challenge : UInt64
  expiresAt : Int64
  nonce : String
  jti : String
  vkId : String
  paramsVersion : String
  keyId : Option String
  version : String
  deriving DecidableEq, Repr

namespace Claims

/-- The version of the tokens that are issued. -/
def currentVersion : String := "ct-v1"

/-- Claims that say nothing beyond the user, the challenge and the end. -/
def of (userId : String) (challenge : UInt64) (expiresAt : Int64) : Claims where
  userId
  challenge
  expiresAt
  nonce := ""
  jti := ""
  vkId := ""
  paramsVersion := ""
  keyId := none
  version := ""

/-- The members of claims. -/
def memberNames : List String :=
  ["user_id", "challenge", "exp", "nonce", "jti", "vk_id", "params_version", "kid", "v"]

/-- Claims as a JSON value; a missing key identifier is left out. -/
def toJson (c : Claims) : Json.Value :=
  .objectOf [
    ("user_id", some (.text c.userId)),
    ("challenge", some (.ofUInt64 c.challenge)),
    ("exp", some (.ofInt64 c.expiresAt)),
    ("nonce", some (.text c.nonce)),
    ("jti", some (.text c.jti)),
    ("vk_id", some (.text c.vkId)),
    ("params_version", some (.text c.paramsVersion)),
    ("kid", c.keyId.map .text),
    ("v", some (.text c.version))]

/-- Claims from a JSON value. -/
def ofJson? (t : Json.Tree) : Option Claims := do
  match ← t.record? memberNames with
  | [userId, challenge, expiresAt, nonce, jti, vkId, paramsVersion, keyId, version] =>
    return {
      userId := ← Record.required? Json.Tree.text? userId
      challenge := ← Record.required? Json.Tree.uint64? challenge
      expiresAt := ← Record.required? Json.Tree.int64? expiresAt
      nonce := ← Record.withDefault? "" Json.Tree.text? nonce
      jti := ← Record.withDefault? "" Json.Tree.text? jti
      vkId := ← Record.withDefault? "" Json.Tree.text? vkId
      paramsVersion := ← Record.withDefault? "" Json.Tree.text? paramsVersion
      keyId := ← Record.withDefault? none (Json.Tree.optional? Json.Tree.text?) keyId
      version := ← Record.withDefault? "" Json.Tree.text? version }
  | _ => none

/-- **The octets that are signed.** -/
def payload (c : Claims) : Bytes :=
  c.toJson.canonicalBytes

/-- The claims that signed octets spell. -/
def ofPayload? (payload : Bytes) : Option Claims :=
  (Json.Tree.parse? payload).bind ofJson?

/-- The key identifier that octets name before anything is known about their signature. -/
def keyHint? (payload : Bytes) : Option (Option String) := do
  let t ← Json.Tree.parse? payload
  match ← t.record? ["kid"] with
  | [keyId] => Record.withDefault? none (Json.Tree.optional? Json.Tree.text?) keyId
  | _ => none

end Claims

end ProofLogin
