import ProofLogin.Record
import ProofLogin.Text.Utf8
import ProofLogin.Yaml.Node

/-!
# Yaml/Record — records, numbers and names in settings files

A record is a mapping with its members in any order, or a sequence of them in the order of the
record; where nothing is written, it is a record without members. A number is written plain. A name
is the text of a scalar, or a tag of the file's own on a scalar that says nothing.
-/

namespace ProofLogin.Yaml

/-! ## Integers -/

/-- The number that digits of a base spell, if there are some and all are of the base. -/
def ofDigits? (base : Nat) (cs : List Char) : Option Nat :=
  if cs = [] then none
  else cs.foldlM (fun n c => do
    let d ← Hex.ofChar? c
    if d < base then some (n * base + d) else none) 0

/-- A number without sign, in a base that the mark at its beginning names. A decimal number does not
begin with a zero that it does not need. -/
def magnitude? : List Char → Option Nat
  | '0' :: 'x' :: cs => ofDigits? 16 cs
  | '0' :: 'o' :: cs => ofDigits? 8 cs
  | '0' :: 'b' :: cs => ofDigits? 2 cs
  | '0' :: _ :: _ => none
  | cs => ofDigits? 10 cs

/-- A number with a plus sign or none. -/
def natural? : List Char → Option Nat
  | '+' :: cs => magnitude? cs
  | cs => magnitude? cs

/-- A number with any sign or none. -/
def integer? : List Char → Option Int
  | '-' :: cs => (magnitude? cs).map fun n => -(n : Int)
  | cs => (natural? cs).map fun n => (n : Int)

/-! ## Tags -/

/-- The tag of integers. -/
def integerTag : Bytes := "tag:yaml.org,2002:int".toList.map octet

/-- The tag of nothing. -/
def nullTag : Bytes := "tag:yaml.org,2002:null".toList.map octet

/-- The name that a tag of the file's own is, without the exclamation mark at its beginning. -/
def nameOfTag? : Bytes → Option String
  | b :: name => if b = octet '!' then Utf8.decode? name else none
  | [] => none

/-- A text that stands for nothing. -/
def isNull (s : String) : Bool :=
  ["", "~", "null", "Null", "NULL"].contains s

namespace Document

variable (d : Document)

/-- The text of a scalar. -/
def text? (n : Node) : Option String := do
  match ← d.resolve? n with
  | .scalar _ s => some s.text
  | _ => none

/-- The characters of a scalar that may be a number: it is plain, or a block that is tagged so. -/
def numeral? (n : Node) : Option (List Char) := do
  match ← d.resolve? n with
  | .scalar tag s =>
    if s.style = .plain ∨ (s.style = .literal ∧ tag = some integerTag) then some s.text.toList
    else none
  | _ => none

/-- A number without sign that is less than `bound`. -/
def below? (bound : Nat) (n : Node) : Option Nat := do
  let m ← natural? (← d.numeral? n)
  if m < bound then some m else none

/-- A 32-bit integer without sign. -/
def uint32? (n : Node) : Option UInt32 :=
  (d.below? 0x100000000 n).map UInt32.ofNat

/-- A 64-bit integer without sign. -/
def uint64? (n : Node) : Option UInt64 :=
  (d.below? 0x10000000000000000 n).map UInt64.ofNat

/-- A 32-bit integer with sign. -/
def int32? (n : Node) : Option Int32 := do
  let m ← integer? (← d.numeral? n)
  if -0x80000000 ≤ m ∧ m < 0x80000000 then some (Int32.ofInt m) else none

/-- **One of finitely many names.** -/
def name? {α : Type} (names : List (String × α)) (n : Node) : Option α := do
  match ← d.resolve? n with
  | .scalar tag s =>
    match tag.bind nameOfTag? with
    | none => names.lookup s.text
    | some name => if s.style = .plain ∧ isNull s.text then names.lookup name else none
  | _ => none

/-- The name and the value of a member. -/
def named? (m : Node × Node) : Option (String × Node) := do
  return (← d.text? m.1, m.2)

/-- **The members of a record**, in the order of `names`. -/
def record? (names : List String) (n : Node) : Option (List (Option Node)) := do
  match ← d.resolve? n with
  | .mapping _ members => Record.ofMembers? names (← members.mapM d.named?)
  | .sequence _ items => Record.ofItems? names items
  | .scalar none s => if s = ⟨.plain, ""⟩ then Record.ofItems? names [] else none
  | .scalar (some tag) _ => if tag = nullTag then Record.ofItems? names [] else none
  | .alias _ => none

end Document

end ProofLogin.Yaml
