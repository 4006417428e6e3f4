import ProofLogin.Digest.Hmac
import ProofLogin.Encoding.Hex
import ProofLogin.Ordered
import ProofLogin.Text.Blank
import ProofLogin.Text.Quoted
import ProofLogin.Token.Error

/-!
# Token/KeySet — the keys that sign tokens

A key is at least 16 octets. A set holds keys under identifiers, and one of them is the default: the
first that was put in, until another one is chosen. When the default is taken out, the least
identifier that is left becomes the default.
-/

namespace ProofLogin

/-- **A key that signs tokens.** -/
structure TokenKey where
  octets : Bytes
  le_length : 16 ≤ octets.length
  deriving DecidableEq

namespace TokenKey

/-- The key of an octet string that is long enough. -/
def ofBytes (bs : Bytes) : Except TokenError TokenKey :=
  if h : 16 ≤ bs.length then .ok ⟨bs, h⟩ else .error .keyMissing

/-- The key that a hexadecimal text spells. -/
def ofHex (s : String) : Except TokenError TokenKey :=
  match Hex.decode (Text.trim s) with
  | .error _ => .error .keyMissing
  | .ok bs => ofBytes bs

/-- **The signature of a payload.** -/
def sign (k : TokenKey) (payload : Bytes) : Bytes :=
  (Hmac.hash k.octets payload).toBytes

/-- How a key is shown in logs. -/
def inspect (_ : TokenKey) : String :=
  "TokenKey(<redacted>)"

end TokenKey

/-- **Keys under identifiers**, in increasing order of these, and the default identifier. -/
structure KeySet where
  keys : List (String × TokenKey)
  defaultKid : Option String
  deriving DecidableEq

namespace KeySet

/-- The set without keys. -/
def empty : KeySet := ⟨[], none⟩

/-- The set has no keys. -/
def isEmpty (s : KeySet) : Bool :=
  s.keys.isEmpty

/-- The key under an identifier. -/
def get? (s : KeySet) (kid : String) : Option TokenKey :=
  s.keys.lookup kid

/-- **A key more**; the first one becomes the default. -/
def insert (s : KeySet) (kid : String) (key : TokenKey) : KeySet :=
  ⟨Ordered.put kid key s.keys, s.defaultKid.or (some kid)⟩

/-- A key more, which becomes the default. -/
def insertDefault (s : KeySet) (kid : String) (key : TokenKey) : KeySet :=
  ⟨Ordered.put kid key s.keys, some kid⟩

/-- The set of one key. -/
def single (kid : String) (key : TokenKey) : KeySet :=
  empty.insertDefault kid key

/-- **The set without the key under an identifier.** -/
def remove (s : KeySet) (kid : String) : KeySet :=
  let keys := s.keys.filter fun (kid', _) => kid' ≠ kid
  ⟨keys, if s.defaultKid = some kid then keys.head?.map Prod.fst else s.defaultKid⟩

/-- **The default key with its identifier.** -/
def signingKey (s : KeySet) : Except TokenError (String × TokenKey) :=
  match s.defaultKid with
  | none => .error .keyMissing
  | some kid => match s.get? kid with
    | none => .error .keyMissing
    | some key => .ok (kid, key)

/-- **The key under an identifier, or the default key.** -/
def select (s : KeySet) (kid : Option String) : Except TokenError TokenKey :=
  if s.isEmpty then .error .keyMissing
  else match kid with
    | none => s.signingKey.map Prod.snd
    | some kid => match s.get? kid with
      | none => .error (.invalid ("unknown key id " ++ Text.quoted kid))
      | some key => .ok key

/-- How an identifier that may be missing is shown in logs. -/
def inspectKid : Option String → String
  | none => "None"
  | some kid => "Some(" ++ Text.quoted kid ++ ")"

/-- How a set is shown in logs, without its keys. -/
def inspect (s : KeySet) : String :=
  let keys := s.keys.map fun (kid, key) => Text.quoted kid ++ ": " ++ key.inspect
  "TokenKeySet \x7b keys: \x7b" ++ ", ".intercalate keys ++ "\x7d, default_kid: "
    ++ inspectKid s.defaultKid ++ " \x7d"

end KeySet

end ProofLogin
