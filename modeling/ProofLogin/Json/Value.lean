import ProofLogin.Decimal.Shortest
import ProofLogin.Json.Literal
import ProofLogin.Json.Tree
import ProofLogin.Ordered

/-!
# Json/Value — JSON values, and how they are written

A value is what a text means: strings are texts, an integer of 64 bits with or without sign is an
integer, and every other number is the nearest binary one. A value that was read lists the members
of each object in increasing order of their keys, each key once: of repeated keys the last one
counts. A value that a record is written as lists its members in the order of the record.

`compact` writes a value without blanks, `pretty` with a line for each item.
-/

namespace ProofLogin.Json

/-- **A JSON value.** -/
inductive Value where
  | null
  | bool (b : Bool)
  | int (n : Int)
  | float (x : Binary64)
  | text (s : String)
  | array (items : List Value)
  | object (members : List (String × Value))

namespace Value

/-! ## Reading -/

/-- The deepest nesting of arrays and objects that is read. -/
def deepest : Nat := 127

/-- An integer that 64 bits hold, with or without sign. -/
def isInteger64 (n : Int) : Bool :=
  -0x8000000000000000 ≤ n && n < 0x10000000000000000

/-- The value of a number. -/
def ofNumeral? (n : Numeral) : Option Value :=
  match n with
  | .integer i => if isInteger64 i then some (.int i) else n.toBinary64?.map .float
  | .decimal .. => n.toBinary64?.map .float

/-- The members in increasing order of their keys, the last one of each key. -/
def sortMembers (ms : List (String × Value)) : List (String × Value) :=
  ms.foldl (fun sorted (k, v) => Ordered.put k v sorted) []

mutual

/-- **The value of a tree**, if its strings are texts, its numbers are not too large, and it nests
no deeper than `room`. -/
def ofTree? (room : Nat) : Tree → Option Value
  | .null => some .null
  | .bool b => some (.bool b)
  | .number n => ofNumeral? n
  | .text octets => (unescape? octets).map .text
  | .array items =>
    if room = 0 then none else (ofItems? (room - 1) items).map .array
  | .object members =>
    if room = 0 then none else (ofMembers? (room - 1) members).map (.object ∘ sortMembers)

/-- The values of the items of an array. -/
def ofItems? (room : Nat) : List Tree → Option (List Value)
  | [] => some []
  | t :: ts => do
    let v ← ofTree? room t
    return v :: (← ofItems? room ts)

/-- The members of an object, in the order of the text. -/
def ofMembers? (room : Nat) : List (Bytes × Tree) → Option (List (String × Value))
  | [] => some []
  | (k, t) :: ms => do
    let k ← unescape? k
    let v ← ofTree? room t
    return (k, v) :: (← ofMembers? room ms)

end

/-- **The value that an octet string spells**, if it is a JSON text. -/
def parse? (bs : Bytes) : Option Value :=
  (Tree.parse? bs).bind (ofTree? deepest)

/-! ## Writing -/

/-- The decimal digits of an integer. -/
def intChars (n : Int) : List Char :=
  (if n < 0 then ['-'] else []) ++ Nat.toDigits 10 n.natAbs

/-- The items with a separator between each two. -/
def sepBy (separator : List Char) : List (List Char) → List Char
  | [] => []
  | [x] => x
  | x :: xs => x ++ separator ++ sepBy separator xs

/-- The text of a value that holds no other. -/
def atomChars : Value → List Char
  | .null => "null".toList
  | .bool true => "true".toList
  | .bool false => "false".toList
  | .int n => intChars n
  | .float x => x.toText.toList
  | .text s => literal s
  | _ => []

mutual

/-- A value without blanks. -/
def compact : Value → List Char
  | .array items => '[' :: sepBy [','] (compactItems items) ++ [']']
  | .object members => '\x7b' :: sepBy [','] (compactMembers members) ++ ['\x7d']
  | v => v.atomChars

/-- Every item without blanks. -/
def compactItems : List Value → List (List Char)
  | [] => []
  | v :: vs => compact v :: compactItems vs

/-- Every member without blanks. -/
def compactMembers : List (String × Value) → List (List Char)
  | [] => []
  | (k, v) :: ms => (literal k ++ ':' :: compact v) :: compactMembers ms

end

/-- A new line, indented by two blanks a level. -/
def newLine (level : Nat) : List Char :=
  '\n' :: List.replicate (2 * level) ' '

/-- What an array or object holds between its brackets, each on a line of its own. -/
def lines (level : Nat) (inner : List (List Char)) : List Char :=
  if inner = [] then [] else
    newLine (level + 1) ++ sepBy (',' :: newLine (level + 1)) inner ++ newLine level

mutual

/-- A value with a line for each item, where its last line is indented to `level`. -/
def pretty (level : Nat) : Value → List Char
  | .array items => '[' :: lines level (prettyItems (level + 1) items) ++ [']']
  | .object members => '\x7b' :: lines level (prettyMembers (level + 1) members) ++ ['\x7d']
  | v => v.atomChars

/-- Every item with a line for each of its own. -/
def prettyItems (level : Nat) : List Value → List (List Char)
  | [] => []
  | v :: vs => pretty level v :: prettyItems level vs

/-- Every member with a line for each of its own. -/
def prettyMembers (level : Nat) : List (String × Value) → List (List Char)
  | [] => []
  | (k, v) :: ms => (literal k ++ ':' :: ' ' :: pretty level v) :: prettyMembers level ms

end

/-- **The text of a value without blanks.** -/
def render (v : Value) : String :=
  String.ofList v.compact

/-- The text of a value without blanks, in ASCII. Beyond ASCII there are only characters between
quotes, so that any reader finds the same value. -/
def renderAscii (v : Value) : String :=
  String.ofList (v.compact.flatMap escapeAscii)

/-- **The text of a value with a line for each item.** -/
def renderPretty (v : Value) : String :=
  String.ofList (v.pretty 0)

/-- The octets of a value without blanks. -/
def toBytes (v : Value) : Bytes :=
  Utf8.encode v.render

/-- The members whose value is there. -/
def objectOf (members : List (String × Option Value)) : Value :=
  .object (members.filterMap fun (k, v?) => v?.map fun v => (k, v))

end Value

end ProofLogin.Json
