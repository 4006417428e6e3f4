import ProofLogin.Digest.Sha256
import ProofLogin.Encoding.Hex
import ProofLogin.Json.Record
import ProofLogin.ParameterError
import ProofLogin.Text.Blank

/-!
# Fingerprint — names of keys

A key is named by the digest of its octets. The name is written as 64 lower-case hexadecimal digits;
it is read in either case, with blanks around it.
-/

namespace ProofLogin

/-- **The name of a key.** -/
structure Fingerprint where
  digest : Bytes32
  deriving DecidableEq

namespace Fingerprint

/-- The name of the key with the given octets. -/
def ofBytes (bs : Bytes) : Fingerprint :=
  ⟨Sha256.hash bs⟩

/-- **The text of a name.** -/
def toHex (f : Fingerprint) : String :=
  Hex.encode f.digest.toBytes

/-- The first eight digits of a name. -/
def short (f : Fingerprint) : String :=
  Hex.encode (f.digest.toBytes.take 4)

/-- How a name is shown in logs. -/
def inspect (f : Fingerprint) : String :=
  "KeyFingerprint(" ++ f.short ++ "...)"

/-- How a name that may be missing is shown in logs. -/
def inspectOption : Option Fingerprint → String
  | none => "None"
  | some f => "Some(" ++ f.inspect ++ ")"

/-- The order of names, octet by octet. -/
def before (f g : Fingerprint) : Bool :=
  Bytes.before f.digest.toBytes g.digest.toBytes

/-- **The name that a text spells.** Its length is looked at before its digits. -/
def ofHex (s : String) : Except ParameterError Fingerprint :=
  let octets := Utf8.encode (Text.trim s)
  if octets.length = 64 then
    match Hex.decodeBytes octets with
    | .error fault => .error (.invalidFingerprint fault.message)
    | .ok bs => match Bytes32.ofBytes? bs with
      | some d => .ok ⟨d⟩
      | none => .error (.invalidFingerprint Hex.Fault.oddLength.message)
  else
    .error <| .invalidFingerprint <|
      "fingerprint hex must be 64 chars, got " ++ toString octets.length

/-- A name as a JSON value. -/
def toJson (f : Fingerprint) : Json.Value :=
  .text f.toHex

/-- A name from a JSON value. -/
def ofJson? (t : Json.Tree) : Option Fingerprint := do
  (ofHex (← t.text?)).toOption

end Fingerprint

end ProofLogin
