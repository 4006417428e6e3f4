import ProofLogin.Encoding.Base64Url
import ProofLogin.Policy
import ProofLogin.Token.Claims
import ProofLogin.Token.Draw
import ProofLogin.Token.KeySet

/-!
# Token/Basic — challenge tokens as texts

A token is its signed claims and their signature, each in URL-safe letters, with a point between
them. The signature is checked before the claims are read; with a set of keys, the claims name the
key that they are to be checked with, and nothing else is read from them before.
-/

namespace ProofLogin.Token

/-! ## Issuing -/

/-- The token of a payload: payload and signature. -/
def ofPayload (key : TokenKey) (payload : Bytes) : String :=
  Base64Url.encode payload ++ "." ++ Base64Url.encode (key.sign payload)

/-- Claims that can be issued. -/
def checkIssuable (c : Claims) : Except TokenError Unit :=
  if c.userId = "" then .error (.missingArguments "user_id")
  else if c.challenge = 0 then .error (.missingArguments "challenge")
  else if c.expiresAt = 0 then .error (.missingArguments "exp")
  else if Draw.greatestChallenge < c.challenge.toNat then
    .error (.invalid ("challenge exceeds " ++ toString Draw.greatestChallenge))
  else .ok ()

/-- The text, or another one in the place of the empty text. -/
def orElse (s : String) (other : String) : String :=
  if s = "" then other else s

/-- **Claims with nothing left empty** that a token has to say. -/
def complete (c : Claims) (kid : Option String) (draw : Draw) : Claims :=
  { c with
    nonce := orElse c.nonce draw.nonceText
    jti := orElse c.jti draw.idText
    version := orElse c.version Claims.currentVersion
    paramsVersion := orElse c.paramsVersion Policy.default.version
    keyId := kid.or c.keyId }

/-- **The token of claims** under a key, which is named if an identifier is given. -/
def issue (c : Claims) (key : TokenKey) (kid : Option String) (draw : Draw) :
    Except TokenError String :=
  (checkIssuable c).map fun () => ofPayload key (complete c kid draw).payload

/-- The token of claims under the default key of a set. -/
def issueWith (c : Claims) (keys : KeySet) (draw : Draw) : Except TokenError String := do
  let (kid, key) ← keys.signingKey
  issue c key (some kid) draw

/-! ## Reading -/

/-- What is before and after the only point of a text. -/
def segments? (token : String) : Option (String × String) :=
  let cs := token.toList
  match cs.dropWhile (· ≠ '.') with
  | [] => none
  | _ :: r =>
    if r.contains '.' then none
    else some (String.ofList (cs.takeWhile (· ≠ '.')), String.ofList r)

/-- **The payload and the signature of a token.** -/
def split (token : String) : Except TokenError (Bytes × Bytes) :=
  match segments? token with
  | none => .error (.invalid "expected two segments")
  | some (payload, tag) => match Base64Url.decode payload with
    | .error fault => .error (.invalid ("payload decode failed: " ++ fault.message))
    | .ok payload => match Base64Url.decode tag with
      | .error fault => .error (.invalid ("signature decode failed: " ++ fault.message))
      | .ok tag => .ok (payload, tag)

/-- A signature that is the one of a key. -/
def checkSignature (key : TokenKey) (payload tag : Bytes) : Except TokenError Unit :=
  if tag = key.sign payload then .ok () else .error (.invalid "signature mismatch")

/-- The error for a payload that is no claims. Behind these words stands what the reader of JSON
says of the text, in the words of that reader; they are none of the token's, and nothing depends on
them. -/
def badPayload : TokenError :=
  .invalid "payload parse failed"

/-- The claims of a payload. -/
def decodeClaims (payload : Bytes) : Except TokenError Claims :=
  match Claims.ofPayload? payload with
  | none => .error badPayload
  | some c => .ok c

/-- **The claims of a token that a key has signed.** -/
def parse (token : String) (key : TokenKey) : Except TokenError Claims := do
  let (payload, tag) ← split token
  checkSignature key payload tag
  decodeClaims payload

/-- **The claims of a token that a key of a set has signed**: the key it names, or the default. -/
def parseWith (token : String) (keys : KeySet) : Except TokenError Claims := do
  if keys.isEmpty then .error .keyMissing
  else
    let (payload, tag) ← split token
    match Claims.keyHint? payload with
    | none => .error badPayload
    | some kid =>
      let key ← keys.select kid
      checkSignature key payload tag
      decodeClaims payload

/-! ## Validity -/

/-- **Claims that hold now**, under the key and the policy that are expected; an empty expectation
admits everything. -/
def checkClaims (c : Claims) (now : Int64) (vkId paramsVersion : String) :
    Except TokenError Claims :=
  if c.expiresAt ≤ now then .error .expired
  else if vkId ≠ "" ∧ c.vkId ≠ vkId then .error (.invalid "vk_id mismatch")
  else if paramsVersion ≠ "" ∧ c.paramsVersion ≠ paramsVersion then
    .error (.policyMismatch paramsVersion c.paramsVersion)
  else if c.version ≠ "" ∧ c.version ≠ Claims.currentVersion then
    .error (.invalid ("unsupported token version " ++ Text.quoted c.version))
  else .ok c

/-- The claims of a token that a key has signed and that hold now. -/
def validate (token : String) (key : TokenKey) (now : Int64) (vkId paramsVersion : String) :
    Except TokenError Claims := do
  checkClaims (← parse token key) now vkId paramsVersion

/-- The claims of a token that a key of a set has signed and that hold now. -/
def validateWith (token : String) (keys : KeySet) (now : Int64) (vkId paramsVersion : String) :
    Except TokenError Claims := do
  checkClaims (← parseWith token keys) now vkId paramsVersion

end ProofLogin.Token
