import ProofLogin.Json.Value
import ProofLogin.Record

/-!
# Json/Record — records, numbers and names in JSON

A record is an object with its members in any order, or an array of them in the order of the record.
-/

namespace ProofLogin.Json

namespace Tree

/-! ## Single values -/

/-- The text that a tree is. -/
def text? : Tree → Option String
  | .text octets => unescape? octets
  | _ => none

/-- The truth value that a tree is. -/
def bool? : Tree → Option Bool
  | .bool b => some b
  | _ => none

/-- The integer that a tree is, if it lies between `least` and `greatest`. -/
def integer? (least greatest : Int) : Tree → Option Int
  | .number (.integer n) => if least ≤ n ∧ n ≤ greatest then some n else none
  | _ => none

/-- A 32-bit integer with sign. -/
def int32? (t : Tree) : Option Int32 :=
  (t.integer? (-0x80000000) 0x7FFFFFFF).map Int32.ofInt

/-- A 64-bit integer with sign. -/
def int64? (t : Tree) : Option Int64 :=
  (t.integer? (-0x8000000000000000) 0x7FFFFFFFFFFFFFFF).map Int64.ofInt

/-- A 32-bit integer without sign. -/
def uint32? (t : Tree) : Option UInt32 :=
  (t.integer? 0 0xFFFFFFFF).map fun n => UInt32.ofNat n.toNat

/-- A 64-bit integer without sign. -/
def uint64? (t : Tree) : Option UInt64 :=
  (t.integer? 0 0xFFFFFFFFFFFFFFFF).map fun n => UInt64.ofNat n.toNat

/-- Nothing for `null`, and otherwise what `read` makes of the tree. -/
def optional? {α : Type} (read : Tree → Option α) : Tree → Option (Option α)
  | .null => some none
  | t => (read t).map some

/-- The items of an array. -/
def list? {α : Type} (read : Tree → Option α) : Tree → Option (List α)
  | .array items => items.mapM read
  | _ => none

/-- One of finitely many names: a string, or an object with that name as its only member and
`null` as its value. -/
def name? {α : Type} (names : List (String × α)) : Tree → Option α
  | .text octets => do names.lookup (← unescape? octets)
  | .object [(key, .null)] => do names.lookup (← unescape? key)
  | _ => none

/-! ## Records -/

/-- The name and the value of a member. -/
def named? (m : Bytes × Tree) : Option (String × Tree) := do
  return (← unescape? m.1, m.2)

/-- The known members of an object, in the order of `names`. -/
def members? (names : List String) (members : List (Bytes × Tree)) :
    Option (List (Option Tree)) := do
  Record.ofMembers? names (← members.mapM named?)

/-- **The members of a record**, in the order of `names`. -/
def record? (names : List String) : Tree → Option (List (Option Tree))
  | .object members => members? names members
  | .array items => Record.ofItems? names items
  | _ => none

end Tree

namespace Value

/-- A 32-bit integer with sign. -/
def ofInt32 (n : Int32) : Value := .int n.toInt

/-- A 64-bit integer with sign. -/
def ofInt64 (n : Int64) : Value := .int n.toInt

/-- A 32-bit integer without sign. -/
def ofUInt32 (n : UInt32) : Value := .int n.toNat

/-- A 64-bit integer without sign. -/
def ofUInt64 (n : UInt64) : Value := .int n.toNat

/-- `null` for nothing. -/
def ofOption {α : Type} (write : α → Value) : Option α → Value
  | none => .null
  | some a => write a

end Value

end ProofLogin.Json
