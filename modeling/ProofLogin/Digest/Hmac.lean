import ProofLogin.Digest.Sha256

/-!
# Digest/Hmac — the keyed digest

The key fills one block, and enters before the message and again before the inner digest, each
time under a mask of its own.
-/

namespace ProofLogin.Hmac

/-- The key as one block: its digest where it is longer, zeros after it where it is shorter. -/
def keyBlock (key : Bytes) : Bytes :=
  let k := if 64 < key.length then (Sha256.hash key).toBytes else key
  k ++ List.replicate (64 - k.length) 0

/-- **The keyed digest of an octet string.** -/
def hash (key message : Bytes) : Bytes32 :=
  let k := keyBlock key
  let inner := Sha256.hash (k.map (· ^^^ 0x36) ++ message)
  Sha256.hash (k.map (· ^^^ 0x5C) ++ inner.toBytes)

end ProofLogin.Hmac
