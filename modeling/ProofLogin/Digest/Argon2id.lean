import ProofLogin.Digest.Blake2b

/-!
# Digest/Argon2id — a digest that costs memory and time

Four lanes of memory blocks are filled from a password and a salt. Every block is compressed from
the one before it and from an earlier block of some lane. In the first half of the first pass the
earlier block is chosen by a counter alone, afterwards by what has been computed: that is the mixed
variant, of version `0x13`. The digest is taken from the last blocks of the four lanes.

A lane has four slices, and a segment is the part of a lane within a slice. A segment refers only
to finished segments of other lanes, so the lanes of one slice can be filled one after the other.
-/

namespace ProofLogin.Argon2id

/-! ## Blocks -/

/-- A memory block of 1024 octets, as eight rows of sixteen words. -/
structure Block where
  r0 : Row
  r1 : Row
  r2 : Row
  r3 : Row
  r4 : Row
  r5 : Row
  r6 : Row
  r7 : Row
  deriving DecidableEq, Inhabited

namespace Block

/-- The block of zeros. -/
def zero : Block :=
  ⟨Row.zero, Row.zero, Row.zero, Row.zero, Row.zero, Row.zero, Row.zero, Row.zero⟩

/-- A function applied to every row. -/
def mapRows (f : Row → Row) (b : Block) : Block :=
  ⟨f b.r0, f b.r1, f b.r2, f b.r3, f b.r4, f b.r5, f b.r6, f b.r7⟩

/-- Word by word exclusive or. -/
def xor (x y : Block) : Block :=
  ⟨x.r0.xor y.r0, x.r1.xor y.r1, x.r2.xor y.r2, x.r3.xor y.r3,
    x.r4.xor y.r4, x.r5.xor y.r5, x.r6.xor y.r6, x.r7.xor y.r7⟩

/-- The row of one pair of words of every row. -/
@[inline] def column (b : Block) (x y : Row → UInt64) : Row :=
  ⟨x b.r0, y b.r0, x b.r1, y b.r1, x b.r2, y b.r2, x b.r3, y b.r3,
    x b.r4, y b.r4, x b.r5, y b.r5, x b.r6, y b.r6, x b.r7, y b.r7⟩

/-- Rows and columns exchanged, where a column is two words wide. -/
def transpose (b : Block) : Block :=
  ⟨b.column Row.w0 Row.w1, b.column Row.w2 Row.w3,
    b.column Row.w4 Row.w5, b.column Row.w6 Row.w7,
    b.column Row.w8 Row.w9, b.column Row.w10 Row.w11,
    b.column Row.w12 Row.w13, b.column Row.w14 Row.w15⟩

/-- The sum of two words and twice the product of their lower halves. -/
def mulAdd (x y : UInt64) : UInt64 :=
  x + y + 2 * (x &&& 0xFFFFFFFF) * (y &&& 0xFFFFFFFF)

/-- The mixing of all rows and then of all columns. -/
def permute (b : Block) : Block :=
  let mix : Row → Row := Row.round fun _ => Row.mixQuad mulAdd 0 0
  ((b.mapRows mix).transpose.mapRows mix).transpose

/-- **The compression of two blocks into one.** -/
def compress (x y : Block) : Block :=
  let b := x.xor y
  b.xor b.permute

/-- The words in order. -/
def toList (b : Block) : List UInt64 :=
  [b.r0, b.r1, b.r2, b.r3, b.r4, b.r5, b.r6, b.r7].flatMap Row.toList

/-- The block that 1024 octets spell. -/
def ofBytes (bs : Bytes) : Block :=
  let row (i : Nat) := Row.ofBytes ((bs.drop (128 * i)).take 128)
  ⟨row 0, row 1, row 2, row 3, row 4, row 5, row 6, row 7⟩

/-- The 1024 octets of a block. -/
def toBytes (b : Block) : Bytes :=
  b.toList.flatMap Row.bytesOfWord

end Block

/-! ## Costs and faults -/

/-- The number of lanes. -/
def lanes : Nat := 4

/-- The number of slices of a pass. -/
def slices : Nat := 4

/-- The version of the filling. -/
def version : Nat := 0x13

/-- The number of the mixed variant. -/
def variant : Nat := 2

/-- The number of octets of a digest. -/
def width : Nat := 32

/-- **What a digest costs**: memory in blocks of one KiB, and passes over it. -/
structure Cost where
  memory : Nat
  passes : Nat
  deriving DecidableEq, Repr

/-- The number of blocks of a segment: the memory is cut down to whole segments. -/
def Cost.segment (c : Cost) : Nat := c.memory / (lanes * slices)

/-- The number of blocks of a lane. -/
def Cost.lane (c : Cost) : Nat := c.segment * slices

/-- The number of blocks of the memory. -/
def Cost.blocks (c : Cost) : Nat := c.lane * lanes

/-- Why there is no digest. -/
inductive Fault where
  | memoryTooSmall
  | tooFewPasses
  | tooFewLanes
  | tooManyLanes
  | outputTooShort
  | outputTooLong
  | passwordTooLong
  | saltTooShort
  | saltTooLong
  deriving DecidableEq, Repr

/-- The words of a fault. -/
def Fault.message : Fault → String
  | .memoryTooSmall => "memory cost is too small"
  | .tooFewPasses => "time cost is too small"
  | .tooFewLanes => "not enough threads"
  | .tooManyLanes => "too many threads"
  | .outputTooShort => "output is too short"
  | .outputTooLong => "output is too long"
  | .passwordTooLong => "password is too long"
  | .saltTooShort => "salt is too short"
  | .saltTooLong => "salt is too long"

/-- The least number of blocks of a lane. -/
def leastLane : Nat := 8

/-- The greatest number of lanes. -/
def greatestLanes : Nat := 0xFFFFFF

/-- The least number of octets of a digest. -/
def leastWidth : Nat := 4

/-- The greatest number of octets of a digest. -/
def greatestWidth : Nat := 0xFFFFFFFF

/-- The least number of octets of a salt. -/
def leastSalt : Nat := 8

/-- A cost that a digest can be run at. The number of lanes and the width of the digest have their
limits as well. -/
def Cost.validate (c : Cost) : Except Fault Unit :=
  if c.memory < leastLane * lanes then .error .memoryTooSmall
  else if c.passes < 1 then .error .tooFewPasses
  else if lanes < 1 then .error .tooFewLanes
  else if greatestLanes < lanes then .error .tooManyLanes
  else if width < leastWidth then .error .outputTooShort
  else if greatestWidth < width then .error .outputTooLong
  else .ok ()

/-- The lengths that the first digest can state. -/
def lengthLimit : Nat := 0x100000000

/-! ## The first digest and long digests -/

/-- A number in four little-endian octets. -/
def number (n : Nat) : Bytes := Bytes.ofNatLE 4 n

/-- The digest of the costs, the password and the salt; there is no key and no further data. -/
def firstDigest (c : Cost) (password salt : Bytes) : Bytes :=
  Blake2b.hash 64 <|
    number lanes ++ number width ++ number c.memory ++ number c.passes ++ number version
      ++ number variant ++ number password.length ++ password ++ number salt.length ++ salt
      ++ number 0 ++ number 0

/-- The first halves of `count` digests, each the digest of the one before it, and then `rest`
octets of one more. -/
def chain : (count rest : Nat) → Bytes → Bytes
  | 0, rest, v => Blake2b.hash rest v
  | count + 1, rest, v =>
    let v := Blake2b.hash 64 v
    v.take 32 ++ chain count rest v

/-- **A digest of any number of octets.** -/
def longHash (n : Nat) (bs : Bytes) : Bytes :=
  let count := (n + 31) / 32 - 2
  if n ≤ 64 then Blake2b.hash n (number n ++ bs)
  else chain count (n - 32 * count) (number n ++ bs)

/-! ## Filling the memory -/

/-- **A segment of some pass.** -/
structure Segment where
  pass : Nat
  slice : Nat
  lane : Nat

namespace Segment

/-- The earlier blocks are chosen by a counter alone. -/
def independent (s : Segment) : Bool :=
  s.pass == 0 && s.slice < 2

/-- The choices of a segment that needs none of the computed blocks: the words of the blocks that
two compressions make out of the place of the segment and a counter. -/
def choices (s : Segment) (c : Cost) : List UInt64 :=
  (List.range ((c.segment + 127) / 128)).flatMap fun i =>
    let input := { Block.zero with r0 := Row.ofList <|
      [s.pass, s.lane, s.slice, c.blocks, c.passes, variant, i + 1].map UInt64.ofNat }
    (Block.zero.compress (Block.zero.compress input)).toList

/-- The place of the earlier block that a word chooses for block `index` of the segment. The lower
half of the word chooses within a lane, with a preference for late blocks, the upper half chooses
the lane. Blocks of this lane are open up to the last but one, blocks of other lanes up to the last
finished segment. -/
def reference (s : Segment) (c : Cost) (index : Nat) (word : UInt64) : Nat :=
  let low := (word &&& 0xFFFFFFFF).toNat
  let lane := if s.pass = 0 ∧ s.slice = 0 then s.lane else (word >>> 32).toNat % lanes
  let finished := if s.pass = 0 then s.slice * c.segment else c.lane - c.segment
  let area :=
    if lane = s.lane then finished + index - 1
    else if index = 0 then finished - 1
    else finished
  let start := if s.pass = 0 then 0 else (s.slice + 1) % slices * c.segment
  let back := area * (low * low / 0x100000000) / 0x100000000
  lane * c.lane + (start + (area - 1 - back)) % c.lane

/-- Block `index` of the segment and the ones after it, `count` together. -/
def fillFrom (s : Segment) (c : Cost) :
    (count index : Nat) → (choices : List UInt64) → Array Block → Array Block
  | 0, _, _, m => m
  | count + 1, index, choices, m =>
    let base := s.lane * c.lane
    let column := s.slice * c.segment + index
    let previous := m.getD (base + (column + c.lane - 1) % c.lane) Block.zero
    let word := if s.independent then choices.headD 0 else previous.r0.w0
    let block := previous.compress (m.getD (s.reference c index word) Block.zero)
    let block := if s.pass = 0 then block else block.xor (m.getD (base + column) Block.zero)
    s.fillFrom c count (index + 1) choices.tail (m.setIfInBounds (base + column) block)

/-- The segment filled. The first two blocks of every lane are there before the first pass. -/
def fill (s : Segment) (c : Cost) (m : Array Block) : Array Block :=
  let ready := if s.pass = 0 ∧ s.slice = 0 then 2 else 0
  let choices := if s.independent then (s.choices c).drop ready else []
  s.fillFrom c (c.segment - ready) ready choices m

end Segment

/-- The segments in the order in which they are filled. -/
def segments (c : Cost) : List Segment :=
  (List.range c.passes).flatMap fun pass =>
    (List.range slices).flatMap fun slice =>
      (List.range lanes).map fun lane => ⟨pass, slice, lane⟩

/-- The memory before the first pass: two blocks of every lane. -/
def start (c : Cost) (first : Bytes) : Array Block :=
  (List.range lanes).foldl (fun m lane =>
      (List.range 2).foldl (fun m i =>
        m.setIfInBounds (lane * c.lane + i)
          (Block.ofBytes (longHash 1024 (first ++ number i ++ number lane)))) m)
    (Array.replicate c.blocks Block.zero)

/-- The last block of every lane, all of them together. -/
def lastBlocks (c : Cost) (m : Array Block) : Block :=
  (List.range lanes).foldl (fun b lane =>
    b.xor (m.getD (lane * c.lane + (c.lane - 1)) Block.zero)) Block.zero

/-- The digest of a password and a salt of admissible lengths. -/
def digest (c : Cost) (password salt : Bytes) : Bytes :=
  let filled := (segments c).foldl (fun m s => s.fill c m) (start c (firstDigest c password salt))
  longHash width (lastBlocks c filled).toBytes

theorem length_digest (c : Cost) (password salt : Bytes) :
    (digest c password salt).length = 32 := by
  simp only [digest, longHash, width]
  exact Blake2b.length_hash (by decide) _

/-- **The digest of a password and a salt**, after a look at its cost and at their lengths. -/
def hash (c : Cost) (password salt : Bytes) : Except Fault Bytes32 := do
  c.validate
  if lengthLimit ≤ password.length then .error .passwordTooLong
  else if salt.length < leastSalt then .error .saltTooShort
  else if lengthLimit ≤ salt.length then .error .saltTooLong
  else .ok ⟨digest c password salt, length_digest c password salt⟩

end ProofLogin.Argon2id
