import ProofLogin.Json.Numeral
import ProofLogin.Json.Token
import ProofLogin.Text.Utf8

/-!
# Json/Tree — JSON texts as trees

A tree is what a text spells before anything is made of it: strings are still as they stand, numbers
are as they are written, and the members of an object are in the order of the text with every
repetition. It is built by a machine that reads one token at a time and keeps the unfinished arrays
and objects on a stack, so that no depth of nesting is too deep.
-/

namespace ProofLogin.Json

/-- **A JSON text, uninterpreted.** -/
inductive Tree where
  | null
  | bool (b : Bool)
  | number (n : Numeral)
  | text (octets : Bytes)
  | array (items : List Tree)
  | object (members : List (Bytes × Tree))

namespace Tree

/-- An array or object that is not closed yet; what it holds is listed last first. In an object the
value of `key` is awaited or has just been read. -/
inductive Frame where
  | items (done : List Tree)
  | members (done : List (Bytes × Tree)) (key : Bytes)

/-- What has been read and what may follow. -/
inductive State where
  /-- A value must follow. -/
  | value (stack : List Frame)
  /-- An array has been opened: a value or the end of the array must follow. -/
  | firstItem (stack : List Frame)
  /-- An object has been opened: a key or the end of the object must follow. -/
  | firstKey (stack : List Frame)
  /-- A comma in an object has been read: a key must follow. -/
  | nextKey (done : List (Bytes × Tree)) (stack : List Frame)
  /-- A key has been read: a colon must follow. -/
  | colon (done : List (Bytes × Tree)) (key : Bytes) (stack : List Frame)
  /-- A value has been read: a comma, the end of what holds it, or the end of the text follows. -/
  | after (t : Tree) (stack : List Frame)

/-- The tree of a word: a literal or a number. -/
def ofWord? (w : Bytes) : Option Tree :=
  if w = [0x6E, 0x75, 0x6C, 0x6C] then some .null
  else if w = [0x74, 0x72, 0x75, 0x65] then some (.bool true)
  else if w = [0x66, 0x61, 0x6C, 0x73, 0x65] then some (.bool false)
  else (Numeral.ofWord? w).map .number

namespace State

/-- A token where a value must follow. -/
def startValue (stack : List Frame) : Token → Option State
  | .openArray => some (.firstItem stack)
  | .openObject => some (.firstKey stack)
  | .quoted octets => some (.after (.text octets) stack)
  | .word w => (ofWord? w).map fun t => .after t stack
  | _ => none

/-- A token after a value. -/
def continueAfter (t : Tree) : List Frame → Token → Option State
  | .items done :: stack, .comma => some (.value (.items (t :: done) :: stack))
  | .items done :: stack, .closeArray => some (.after (.array (t :: done).reverse) stack)
  | .members done key :: stack, .comma => some (.nextKey ((key, t) :: done) stack)
  | .members done key :: stack, .closeObject =>
    some (.after (.object ((key, t) :: done).reverse) stack)
  | _, _ => none

/-- **One token more.** -/
def push : State → Token → Option State
  | .value stack, token => startValue stack token
  | .firstItem stack, .closeArray => some (.after (.array []) stack)
  | .firstItem stack, token => startValue (.items [] :: stack) token
  | .firstKey stack, .closeObject => some (.after (.object []) stack)
  | .firstKey stack, .quoted key => some (.colon [] key stack)
  | .nextKey done stack, .quoted key => some (.colon done key stack)
  | .colon done key stack, .colon => some (.value (.members done key :: stack))
  | .after t stack, token => continueAfter t stack token
  | _, _ => none

/-- The tree at the end of the text, with nothing left open. -/
def finish : State → Option Tree
  | .after t [] => some t
  | _ => none

end State

/-- The tree of a sequence of tokens. -/
def ofTokens? (ts : List Token) : Option Tree :=
  (ts.foldlM State.push (.value [])).bind State.finish

/-- **The tree that an octet string spells**, if it is a JSON text. -/
def parse? (bs : Bytes) : Option Tree :=
  (tokens? bs).bind ofTokens?

/-- The tree that a text spells. -/
def ofText? (s : String) : Option Tree :=
  parse? (Utf8.encode s)

end Tree

end ProofLogin.Json
