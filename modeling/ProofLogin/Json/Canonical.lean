import ProofLogin.Json.Value

/-!
# Json/Canonical — one octet string for each value

The canonical form has no blanks and lists the members of every object in the order of their keys
**as they are written**: the octets of the quoted and escaped key are compared. A value with a
number that is not an integer has no canonical form.
-/

namespace ProofLogin.Json

namespace Value

mutual

/-- The first number of a value that is no integer, depth first. -/
def firstFloat? : Value → Option Binary64
  | .float x => some x
  | .array items => firstFloatItem? items
  | .object members => firstFloatMember? members
  | _ => none

/-- The first number of an array that is no integer. -/
def firstFloatItem? : List Value → Option Binary64
  | [] => none
  | v :: vs => (firstFloat? v).or (firstFloatItem? vs)

/-- The first number of an object that is no integer. -/
def firstFloatMember? : List (String × Value) → Option Binary64
  | [] => none
  | (_, v) :: ms => (firstFloat? v).or (firstFloatMember? ms)

end

/-- A written key and a written value. -/
abbrev Written := List Char × List Char

/-- The order of written keys. -/
def Written.before (m m' : Written) : Bool :=
  Bytes.before (Utf8.encode (String.ofList m.1)) (Utf8.encode (String.ofList m'.1))

/-- A member as it stands in an object. -/
def Written.chars (m : Written) : List Char :=
  m.1 ++ ':' :: m.2

mutual

/-- A value with the members of every object in canonical order. -/
def canonical : Value → List Char
  | .array items => '[' :: sepBy [','] (canonicalItems items) ++ [']']
  | .object members =>
    let sorted := Ordered.sort Written.before (canonicalMembers members)
    '\x7b' :: sepBy [','] (sorted.map Written.chars) ++ ['\x7d']
  | v => v.atomChars

/-- Every item in canonical order. -/
def canonicalItems : List Value → List (List Char)
  | [] => []
  | v :: vs => canonical v :: canonicalItems vs

/-- Every member in canonical order, in the order given. -/
def canonicalMembers : List (String × Value) → List Written
  | [] => []
  | (k, v) :: ms => (literal k, canonical v) :: canonicalMembers ms

end

/-- The canonical octets of a value without regard to its numbers. -/
def canonicalBytes (v : Value) : Bytes :=
  Utf8.encode (String.ofList v.canonical)

/-- **The canonical form of a value**, or the first number that has none. -/
def canonicalize (v : Value) : Except Binary64 Bytes :=
  match v.firstFloat? with
  | some x => .error x
  | none => .ok v.canonicalBytes

end Value

end ProofLogin.Json
