import ProofLogin.Digest.Row

/-!
# Digest/Blake2b — digests of up to 64 octets

The message goes in blocks of 128 octets through twelve rounds each, and the last block is filled
up with zeros and marked. The width of the digest enters the first chaining value, so digests of
different widths have nothing in common.
-/

namespace ProofLogin.Blake2b

/-- The eight chaining words. -/
structure State where
  a : UInt64
  b : UInt64
  c : UInt64
  d : UInt64
  e : UInt64
  f : UInt64
  g : UInt64
  h : UInt64

/-- The constants of the first chaining value and of every block. -/
def constants : State :=
  ⟨0x6a09e667f3bcc908, 0xbb67ae8584caa73b, 0x3c6ef372fe94f82b, 0xa54ff53a5f1d36f1,
    0x510e527fade682d1, 0x9b05688c2b3e6c1f, 0x1f83d9abfb41bd6b, 0x5be0cd19137e2179⟩

/-- The order in which each round takes the words of the block. -/
def schedule : List (List Nat) := [
  [0, 1, 2, 3, 4, 5, 6, 7, 8, 9, 10, 11, 12, 13, 14, 15],
  [14, 10, 4, 8, 9, 15, 13, 6, 1, 12, 0, 2, 11, 7, 5, 3],
  [11, 8, 12, 0, 5, 2, 15, 13, 10, 14, 3, 6, 7, 1, 9, 4],
  [7, 9, 3, 1, 13, 12, 11, 14, 2, 6, 5, 10, 4, 0, 15, 8],
  [9, 0, 5, 7, 2, 4, 10, 15, 14, 1, 11, 12, 6, 8, 3, 13],
  [2, 12, 6, 10, 0, 11, 8, 3, 4, 13, 7, 5, 15, 14, 1, 9],
  [12, 5, 1, 15, 14, 13, 4, 10, 0, 7, 6, 3, 9, 2, 8, 11],
  [13, 11, 7, 14, 12, 1, 3, 9, 5, 0, 15, 4, 8, 6, 2, 10],
  [6, 15, 14, 9, 11, 3, 0, 8, 12, 2, 13, 7, 1, 4, 10, 5],
  [10, 2, 8, 4, 7, 6, 1, 5, 15, 11, 9, 14, 3, 12, 13, 0],
  [0, 1, 2, 3, 4, 5, 6, 7, 8, 9, 10, 11, 12, 13, 14, 15],
  [14, 10, 4, 8, 9, 15, 13, 6, 1, 12, 0, 2, 11, 7, 5, 3]]

/-- One round, which takes the words of the block in the given order. -/
def mixRound (block : List UInt64) (r : Row) (order : List Nat) : Row :=
  let word (i : Nat) := block.getD (order.getD i 0) 0
  r.round fun i => Row.mixQuad (· + ·) (word (2 * i)) (word (2 * i + 1))

/-- One block mixed into the state: `counted` octets of the message are in, and `last` marks the
last block. -/
def State.absorb (s : State) (counted : Nat) (last : Bool) (block : Bytes) : State :=
  let k := constants
  let start : Row :=
    ⟨s.a, s.b, s.c, s.d, s.e, s.f, s.g, s.h, k.a, k.b, k.c, k.d,
      k.e ^^^ UInt64.ofNat counted, k.f ^^^ UInt64.ofNat (counted / 0x10000000000000000),
      if last then ~~~k.g else k.g, k.h⟩
  let r := schedule.foldl (mixRound (Row.wordsOfBytes 16 block)) start
  ⟨s.a ^^^ r.w0 ^^^ r.w8, s.b ^^^ r.w1 ^^^ r.w9, s.c ^^^ r.w2 ^^^ r.w10, s.d ^^^ r.w3 ^^^ r.w11,
    s.e ^^^ r.w4 ^^^ r.w12, s.f ^^^ r.w5 ^^^ r.w13, s.g ^^^ r.w6 ^^^ r.w14, s.h ^^^ r.w7 ^^^ r.w15⟩

/-- The given number of whole blocks and the last one, after `counted` octets. -/
def State.absorbBlocks : (whole counted : Nat) → Bytes → State → State
  | 0, counted, bs, s => s.absorb (counted + bs.length) true bs
  | whole + 1, counted, bs, s =>
    absorbBlocks whole (counted + 128) (bs.drop 128) (s.absorb (counted + 128) false (bs.take 128))

/-- The state before the first block of a digest of `width` octets without a key. -/
def initial (width : Nat) : State :=
  { constants with a := constants.a ^^^ 0x01010000 ^^^ UInt64.ofNat width }

/-- The 64 octets of a state. -/
def State.toBytes (s : State) : Bytes :=
  [s.a, s.b, s.c, s.d, s.e, s.f, s.g, s.h].flatMap Row.bytesOfWord

/-- **The digest of an octet string**, `width ≤ 64` octets long. -/
def hash (width : Nat) (bs : Bytes) : Bytes :=
  ((initial width).absorbBlocks ((bs.length - 1) / 128) 0 bs).toBytes.take width

theorem length_hash {width : Nat} (h : width ≤ 64) (bs : Bytes) :
    (hash width bs).length = width := by
  simp [hash, State.toBytes, Row.bytesOfWord]
  omega

end ProofLogin.Blake2b
