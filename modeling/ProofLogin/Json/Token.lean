import ProofLogin.Encoding.Hex

/-!
# Json/Token — the tokens of a JSON text

A text is read octet by octet. Between tokens there may be blanks; a string runs to the first quote
that no backslash escapes; everything else that is neither a bracket nor a separator is a word: a
number or one of the three literals. The octets of a string are kept as they stand, because a
string that nobody asks for may hold what no text holds: what is checked here is only that its
escapes are complete and that it has no control octet.
-/

namespace ProofLogin.Json

/-- **A token.** -/
inductive Token where
  | openArray
  | closeArray
  | openObject
  | closeObject
  | comma
  | colon
  | quoted (octets : Bytes)
  | word (octets : Bytes)
  deriving DecidableEq, Repr

/-- What the next octet belongs to. The octets of an unfinished token are listed last first. -/
inductive Mode where
  | between
  | quoted (read : Bytes)
  | escaped (read : Bytes)
  | hex (missing : Nat) (read : Bytes)
  | word (read : Bytes)
  deriving DecidableEq, Repr

/-- A blank between tokens. -/
def isBlank (b : UInt8) : Bool :=
  b == 0x20 || b == 0x0A || b == 0x0D || b == 0x09

/-- An octet of a word: a digit, a small letter, `E`, a sign or a point. -/
def isWordOctet (b : UInt8) : Bool :=
  (0x30 ≤ b && b ≤ 0x39) || (0x61 ≤ b && b ≤ 0x7A) || b == 0x45 || b == 0x2B || b == 0x2D
    || b == 0x2E

/-- The token of one octet. -/
def punctuation? (b : UInt8) : Option Token :=
  if b = 0x5B then some .openArray
  else if b = 0x5D then some .closeArray
  else if b = 0x7B then some .openObject
  else if b = 0x7D then some .closeObject
  else if b = 0x2C then some .comma
  else if b = 0x3A then some .colon
  else none

/-- The quote. -/
def quote : UInt8 := 0x22

/-- The backslash. -/
def backslash : UInt8 := 0x5C

/-- **A scanner**: its mode, and the finished tokens, last first. -/
structure Scanner where
  mode : Mode
  tokens : List Token
  deriving DecidableEq, Repr

namespace Scanner

/-- The octet begins something. -/
def start (ts : List Token) (b : UInt8) : Option Scanner :=
  if isBlank b then some ⟨.between, ts⟩
  else if b = quote then some ⟨.quoted [], ts⟩
  else if isWordOctet b then some ⟨.word [b], ts⟩
  else (punctuation? b).map fun t => ⟨.between, t :: ts⟩

/-- One octet more. An octet that does not continue a word ends it and begins something else. -/
def push (s : Scanner) (b : UInt8) : Option Scanner :=
  match s.mode with
  | .between => start s.tokens b
  | .quoted read =>
    if b = quote then some ⟨.between, .quoted read.reverse :: s.tokens⟩
    else if b = backslash then some { s with mode := .escaped (b :: read) }
    else if b < 0x20 then none
    else some { s with mode := .quoted (b :: read) }
  | .escaped read =>
    if b = 0x75 then some { s with mode := .hex 4 (b :: read) }
    else if b = quote ∨ b = backslash ∨ b = 0x2F ∨ b = 0x62 ∨ b = 0x66 ∨ b = 0x6E ∨ b = 0x72
        ∨ b = 0x74 then
      some { s with mode := .quoted (b :: read) }
    else none
  | .hex missing read =>
    if (Hex.value? b).isSome then
      let read := b :: read
      some { s with mode := if missing ≤ 1 then .quoted read else .hex (missing - 1) read }
    else none
  | .word read =>
    if isWordOctet b then some { s with mode := .word (b :: read) }
    else start (.word read.reverse :: s.tokens) b

/-- The tokens at the end of the text, in order; a string must have been closed. -/
def finish (s : Scanner) : Option (List Token) :=
  match s.mode with
  | .between => some s.tokens.reverse
  | .word read => some (.word read.reverse :: s.tokens).reverse
  | _ => none

end Scanner

/-- **The tokens of a text.** -/
def tokens? (bs : Bytes) : Option (List Token) :=
  (bs.foldlM Scanner.push ⟨.between, []⟩).bind Scanner.finish

end ProofLogin.Json
