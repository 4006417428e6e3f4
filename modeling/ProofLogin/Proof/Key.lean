import ProofLogin.Fingerprint
import ProofLogin.Proof.Circuit
import ProofLogin.Proof.Error

/-!
# Proof/Key — keys for proving and for verifying

A key says for which circuit it is, carries the digest of the statement it was made for, and holds a
seed. As octets it begins with a mark that tells keys for proving from keys for verifying: 73 octets
altogether. Both keys of a pair hold the same seed.
-/

namespace ProofLogin

/-- **What a key holds.** -/
structure KeyMaterial where
  circuit : Circuit
  digest : Bytes32
  seed : Bytes32
  deriving DecidableEq

/-- What a key is for. -/
inductive KeyRole where
  | proving
  | verifying
  deriving DecidableEq, Repr

/-- The name of a role. -/
def KeyRole.name : KeyRole → String
  | .proving => "proving"
  | .verifying => "verifying"

/-- The eight octets that keys of a role begin with. -/
def KeyRole.mark : KeyRole → Bytes
  | .proving => [0x7A, 0x6B, 0x69, 0x64, 0x2D, 0x70, 0x6B, 0x01]
  | .verifying => [0x7A, 0x6B, 0x69, 0x64, 0x2D, 0x76, 0x6B, 0x01]

namespace KeyMaterial

/-- The number of octets of a key. -/
def width : Nat := 73

/-- The octet of a circuit. -/
def circuitTag : Circuit → UInt8
  | .auth => 1
  | .age => 2

/-- The circuit of an octet. -/
def circuitOfTag? (tag : UInt8) : Option Circuit :=
  if tag = 1 then some .auth else if tag = 2 then some .age else none

/-- **The octets of a key**: mark, circuit, digest of the statement, seed. -/
def toBytes (role : KeyRole) (k : KeyMaterial) : Bytes :=
  role.mark ++ circuitTag k.circuit :: (k.digest.toBytes ++ k.seed.toBytes)

/-- **The key that octets spell.** Their number is looked at first, then the mark, then the tag. -/
def ofBytes (role : KeyRole) (bs : Bytes) : Except SetupError KeyMaterial :=
  if h : bs.length = width then
    if bs.take 8 = role.mark then
      let tag := bs.getD 8 0
      match circuitOfTag? tag with
      | none => .error (.keyParse ("unknown circuit tag " ++ toString tag.toNat))
      | some circuit => .ok {
          circuit
          digest := ⟨(bs.drop 9).take 32, by simp [width] at h; simp [h]⟩
          seed := ⟨bs.drop 41, by simp [width] at h; simp [h]⟩ }
    else .error (.keyParse "wrong key type or version")
  else .error (.keyParse ("expected " ++ toString width ++ " bytes, got " ++ toString bs.length))

/-- The key of a circuit with a seed, made for the statement as it is. -/
def ofSeed (circuit : Circuit) (seed : Bytes32) : KeyMaterial :=
  ⟨circuit, circuit.digest, seed⟩

end KeyMaterial

/-- **A key for proving.** -/
structure ProvingKey where
  material : KeyMaterial
  deriving DecidableEq

namespace ProvingKey

/-- The circuit of a key. -/
def circuit (k : ProvingKey) : Circuit := k.material.circuit

/-- The octets of a key. -/
def toBytes (k : ProvingKey) : Bytes := k.material.toBytes .proving

/-- The key that octets spell. -/
def ofBytes (bs : Bytes) : Except SetupError ProvingKey :=
  (KeyMaterial.ofBytes .proving bs).map ProvingKey.mk

/-- The name of a key. -/
def fingerprint (k : ProvingKey) : Fingerprint := Fingerprint.ofBytes k.toBytes

/-- How a key is shown in logs. -/
def inspect (k : ProvingKey) : String :=
  "TransparentProvingKey(" ++ k.circuit.name ++ ", " ++ k.fingerprint.inspect ++ ")"

end ProvingKey

/-- **A key for verifying.** -/
structure VerifyingKey where
  material : KeyMaterial
  deriving DecidableEq

namespace VerifyingKey

/-- The circuit of a key. -/
def circuit (k : VerifyingKey) : Circuit := k.material.circuit

/-- The octets of a key. -/
def toBytes (k : VerifyingKey) : Bytes := k.material.toBytes .verifying

/-- The key that octets spell. -/
def ofBytes (bs : Bytes) : Except SetupError VerifyingKey :=
  (KeyMaterial.ofBytes .verifying bs).map VerifyingKey.mk

/-- The name of a key. -/
def fingerprint (k : VerifyingKey) : Fingerprint := Fingerprint.ofBytes k.toBytes

/-- How a key is shown in logs. -/
def inspect (k : VerifyingKey) : String :=
  "TransparentVerifyingKey(" ++ k.circuit.name ++ ", " ++ k.fingerprint.inspect ++ ")"

end VerifyingKey

/-- **A pair of keys for a circuit**, from the seed of a draw. -/
def KeyMaterial.pair (circuit : Circuit) (seed : Bytes32) : ProvingKey × VerifyingKey :=
  (⟨ofSeed circuit seed⟩, ⟨ofSeed circuit seed⟩)

end ProofLogin
