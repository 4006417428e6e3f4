import ProofLogin.Bytes

/-!
# Digest/Row — sixteen 64-bit words and the round that mixes them

The words are thought of as a square of four by four. `Row.round` mixes the four columns and then
the four diagonals; what a mixing does to four words is a parameter, which is all that tells the
compression of the digest from the one of the memory blocks.
-/

namespace ProofLogin

/-- Four words that are mixed with each other. -/
structure Quad where
  a : UInt64
  b : UInt64
  c : UInt64
  d : UInt64

/-- **Sixteen words.** -/
structure Row where
  w0 : UInt64
  w1 : UInt64
  w2 : UInt64
  w3 : UInt64
  w4 : UInt64
  w5 : UInt64
  w6 : UInt64
  w7 : UInt64
  w8 : UInt64
  w9 : UInt64
  w10 : UInt64
  w11 : UInt64
  w12 : UInt64
  w13 : UInt64
  w14 : UInt64
  w15 : UInt64
  deriving DecidableEq, Inhabited

namespace Row

/-- Rotation of a word to the right by `0 < n < 64` places. -/
@[inline] def rotr (x : UInt64) (n : UInt64) : UInt64 :=
  (x >>> n) ||| (x <<< (64 - n))

/-- Mixing of four words, where `add` joins the second word of a pair to the first: two halves with
rotations of their own, each a sum and an exclusive or on both pairs. `x` and `y` enter them. -/
@[inline] def mixQuad (add : UInt64 → UInt64 → UInt64) (x y : UInt64) (q : Quad) : Quad :=
  let a := add q.a q.b + x
  let d := rotr (q.d ^^^ a) 32
  let c := add q.c d
  let b := rotr (q.b ^^^ c) 24
  let a := add a b + y
  let d := rotr (d ^^^ a) 16
  let c := add c d
  let b := rotr (b ^^^ c) 63
  ⟨a, b, c, d⟩

/-- **One round**: columns, then diagonals. The mixings are numbered in this order. -/
@[inline] def round (mix : Nat → Quad → Quad) (r : Row) : Row :=
  let c0 := mix 0 ⟨r.w0, r.w4, r.w8, r.w12⟩
  let c1 := mix 1 ⟨r.w1, r.w5, r.w9, r.w13⟩
  let c2 := mix 2 ⟨r.w2, r.w6, r.w10, r.w14⟩
  let c3 := mix 3 ⟨r.w3, r.w7, r.w11, r.w15⟩
  let d0 := mix 4 ⟨c0.a, c1.b, c2.c, c3.d⟩
  let d1 := mix 5 ⟨c1.a, c2.b, c3.c, c0.d⟩
  let d2 := mix 6 ⟨c2.a, c3.b, c0.c, c1.d⟩
  let d3 := mix 7 ⟨c3.a, c0.b, c1.c, c2.d⟩
  ⟨d0.a, d1.a, d2.a, d3.a, d3.b, d0.b, d1.b, d2.b,
    d2.c, d3.c, d0.c, d1.c, d1.d, d2.d, d3.d, d0.d⟩

/-- Word by word exclusive or. -/
def xor (r s : Row) : Row :=
  ⟨r.w0 ^^^ s.w0, r.w1 ^^^ s.w1, r.w2 ^^^ s.w2, r.w3 ^^^ s.w3,
    r.w4 ^^^ s.w4, r.w5 ^^^ s.w5, r.w6 ^^^ s.w6, r.w7 ^^^ s.w7,
    r.w8 ^^^ s.w8, r.w9 ^^^ s.w9, r.w10 ^^^ s.w10, r.w11 ^^^ s.w11,
    r.w12 ^^^ s.w12, r.w13 ^^^ s.w13, r.w14 ^^^ s.w14, r.w15 ^^^ s.w15⟩

/-- The row of zeros. -/
def zero : Row :=
  ⟨0, 0, 0, 0, 0, 0, 0, 0, 0, 0, 0, 0, 0, 0, 0, 0⟩

/-- The words in order. -/
def toList (r : Row) : List UInt64 :=
  [r.w0, r.w1, r.w2, r.w3, r.w4, r.w5, r.w6, r.w7,
    r.w8, r.w9, r.w10, r.w11, r.w12, r.w13, r.w14, r.w15]

/-- A row from its words; missing words are zero. -/
def ofList (ws : List UInt64) : Row :=
  let w (i : Nat) := ws.getD i 0
  ⟨w 0, w 1, w 2, w 3, w 4, w 5, w 6, w 7, w 8, w 9, w 10, w 11, w 12, w 13, w 14, w 15⟩

/-- The little-endian word that at most eight octets spell. -/
def wordOfBytes : Bytes → UInt64
  | [] => 0
  | b :: r => b.toUInt64 ||| (wordOfBytes r <<< 8)

/-- The first `count` little-endian words of an octet string. -/
def wordsOfBytes : (count : Nat) → Bytes → List UInt64
  | 0, _ => []
  | count + 1, bs => wordOfBytes (bs.take 8) :: wordsOfBytes count (bs.drop 8)

/-- The eight little-endian octets of a word. -/
def bytesOfWord (w : UInt64) : Bytes :=
  Bytes.ofNatLE 8 w.toNat

/-- The row that an octet string of length 128 spells. -/
def ofBytes (bs : Bytes) : Row :=
  ofList (wordsOfBytes 16 bs)

/-- The 128 octets of a row. -/
def toBytes (r : Row) : Bytes :=
  r.toList.flatMap bytesOfWord

end Row

end ProofLogin
