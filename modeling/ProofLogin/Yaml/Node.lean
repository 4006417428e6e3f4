import ProofLogin.Yaml.Token

/-!
# Yaml/Node — settings files as trees

A node is a scalar, a sequence, a mapping, or an alias: the number of an anchor, which a node
elsewhere bears. An alias may stand inside of the node that it means, so it is looked up only when
its value is asked for. A file holds one document.
-/

namespace ProofLogin.Yaml

/-- **A part of a document** with its tag. -/
inductive Node where
  | scalar (tag : Option Bytes) (s : Scalar)
  | sequence (tag : Option Bytes) (items : List Node)
  | mapping (tag : Option Bytes) (members : List (Node × Node))
  | alias (anchor : Nat)

/-- What is read where nothing is written. -/
def Node.nothing : Node := .scalar none ⟨.plain, ""⟩

/-- **A document**: its node, and the nodes that bear anchors. -/
structure Document where
  root : Node
  anchored : List (Nat × Node)

/-- The node that is meant: an alias means the node that bears its anchor. -/
def Document.resolve? (d : Document) : Node → Option Node
  | .alias anchor => d.anchored.lookup anchor
  | n => some n

/-! ## The state of the reading -/

/-- **What is left to read, and what has been declared.** A name that is given to a node gets the
number of the different names before it; names that are given again and new ones after them may so
come to share a number, and then the last node with that number is meant. `bearers` tells, for each
of these numbers, which of the nodes with an anchor bears it, and `nodes` are these nodes. -/
structure Reading where
  tokens : List Token
  handles : List (String × Bytes)
  numbers : List (String × Nat)
  bearers : List (Nat × Nat)
  nodes : List (Nat × Node)

/-- A part of the grammar: it takes tokens, or there is no such part. -/
abbrev Grammar := StateT Reading Option

namespace Grammar

/-- The next token is one of some. -/
def isNext (ts : List Token) : Grammar Bool := do
  return (← get).tokens.head?.any ts.contains

/-- The next token is passed over. -/
def skip : Grammar Unit :=
  modify fun r => { r with tokens := r.tokens.drop 1 }

/-- A token, if it is the next one. -/
def accept (t : Token) : Grammar Bool := do
  if ← isNext [t] then
    skip
    return true
  else return false

/-- A token that has to be the next one. -/
def expect (t : Token) : Grammar Unit := do
  unless ← accept t do failure

/-- Nothing before one of some tokens, and a node before any other. -/
def nodeUnless (ts : List Token) (node : Grammar Node) : Grammar Node := do
  if ← isNext ts then return .nothing else node

/-! ## Collections

Each of them is read up to its end, and holds no more than `room` members. -/

/-- The items of a sequence that is a block. -/
def blockItems (node : Grammar Node) : (room : Nat) → Grammar (List Node)
  | 0 => failure
  | room + 1 => do
    if ← accept .item then
      let item ← nodeUnless [.item, .blockEnd] node
      return item :: (← blockItems node room)
    else
      expect .blockEnd
      return []

/-- The items of a sequence that is indented no further than the key that it belongs to. -/
def flushItems (node : Grammar Node) : (room : Nat) → Grammar (List Node)
  | 0 => failure
  | room + 1 => do
    if ← accept .item then
      let item ← nodeUnless [.item, .key, .value, .blockEnd] node
      return item :: (← flushItems node room)
    else return []

/-- The value after a key, or nothing. -/
def valueUnless (ts : List Token) (node : Grammar Node) : Grammar Node := do
  if ← accept .value then nodeUnless ts node else return .nothing

/-- The members of a mapping that is a block. -/
def blockMembers (node : Grammar Node) : (room : Nat) → Grammar (List (Node × Node))
  | 0 => failure
  | room + 1 => do
    if ← accept .key then
      let key ← nodeUnless [.key, .value, .blockEnd] node
      let value ← valueUnless [.key, .value, .blockEnd] node
      return (key, value) :: (← blockMembers node room)
    else
      expect .blockEnd
      return []

/-- A key with its value as an item inside of brackets. Where the key is missing, the token in its
place is passed over. -/
def flowPair (node : Grammar Node) : Grammar Node := do
  let isMissing ← isNext [.value, .comma, .closeSequence]
  let key ← if isMissing then skip *> return .nothing else node
  return .mapping none [(key, ← valueUnless [.comma, .closeSequence] node)]

/-- The items of a sequence inside of brackets; a comma stands between two of them, and one may
stand at the end. -/
def flowItems (node : Grammar Node) (isFirst : Bool) : (room : Nat) → Grammar (List Node)
  | 0 => failure
  | room + 1 => do
    if ← accept .closeSequence then return []
    unless isFirst do expect .comma
    if ← accept .closeSequence then return []
    let item ← if ← accept .key then flowPair node else node
    return item :: (← flowItems node false room)

/-- A member of a mapping inside of braces. What is not marked as a key has no value. -/
def flowMember (node : Grammar Node) : Grammar (Node × Node) := do
  if ← accept .key then
    let key ← nodeUnless [.value, .comma, .closeMapping] node
    return (key, ← valueUnless [.comma, .closeMapping] node)
  else return (← node, .nothing)

/-- The members of a mapping inside of braces. -/
def flowMembers (node : Grammar Node) (isFirst : Bool) : (room : Nat) →
    Grammar (List (Node × Node))
  | 0 => failure
  | room + 1 => do
    if ← accept .closeMapping then return []
    unless isFirst do expect .comma
    if ← accept .closeMapping then return []
    let member ← flowMember node
    return member :: (← flowMembers node false room)

/-! ## Nodes -/

/-- A name for a node, or none. -/
def anchor : Grammar (Option String) := do
  match (← get).tokens with
  | .anchor name :: ts =>
    modify ({ · with tokens := ts })
    return some name
  | _ => return none

/-- A tag with its handle replaced by what it stands for, or none. -/
def tag : Grammar (Option Bytes) := do
  match (← get).tokens with
  | .tag handle suffix :: ts =>
    modify ({ · with tokens := ts })
    if handle = "" then return some suffix
    else match (← get).handles.lookup handle with
      | some meaning => return some (meaning ++ suffix)
      | none => failure
  | _ => return none

/-- The number of the next bearer of an anchor, once the name is given to it. -/
def declare (name : String) : Grammar Nat := do
  let r ← get
  let number := r.numbers.length
  let numbers := (name, number) :: r.numbers.filter (·.1 ≠ name)
  set { r with numbers, bearers := (number, r.bearers.length) :: r.bearers }
  return r.bearers.length

/-- Where a node stands, which says what it may be. -/
inductive Setting where
  /-- Inside of brackets or braces, where no block begins. -/
  | flow
  /-- In a block. -/
  | block
  /-- In a mapping that is a block: its sequences need no indentation of their own. -/
  | member
  deriving DecidableEq

/-- What a node is besides its name: nothing may be written only where it has a name or a tag. -/
def content (node : Setting → Grammar Node) (setting : Setting) (isMarked : Bool)
    (tag : Option Bytes) : Grammar Node := do
  let tokens := (← get).tokens
  let room := tokens.length + 1
  match tokens.head?, setting with
  | some .item, .member => return .sequence tag (← flushItems (node .block) room)
  | some (.scalar s), _ =>
    skip
    return .scalar (if tag = some [octet '!'] then none else tag) s
  | some .openSequence, _ =>
    skip
    return .sequence tag (← flowItems (node .flow) true room)
  | some .openMapping, _ =>
    skip
    return .mapping tag (← flowMembers (node .flow) true room)
  | some .blockSequence, .block | some .blockSequence, .member =>
    skip
    return .sequence tag (← blockItems (node .block) room)
  | some .blockMapping, .block | some .blockMapping, .member =>
    skip
    return .mapping tag (← blockMembers (node .member) room)
  | _, _ => if isMarked then return .scalar tag ⟨.plain, ""⟩ else failure

/-- **A node**, in which nodes are nested no deeper than `room`. Its name and its tag may stand in
any order. -/
def node : (room : Nat) → Setting → Grammar Node
  | 0, _ => failure
  | room + 1, setting => do
    match (← get).tokens with
    | .alias name :: ts =>
      modify ({ · with tokens := ts })
      match (← get).numbers.lookup name with
      | some number => return .alias number
      | none => failure
    | _ =>
      let before ← anchor
      let tag ← tag
      let name ← if before.isSome then pure before else anchor
      match name with
      | none => content (node room) setting tag.isSome tag
      | some name =>
        let bearer ← declare name
        let n ← content (node room) setting true tag
        modify fun r => { r with nodes := (bearer, n) :: r.nodes }
        return n

/-! ## Documents -/

/-- The directives before a document, with the handles that they declare: at most one version, and
no handle twice. -/
def directives? (hasVersion : Bool) (handles : List (String × Bytes)) :
    List Token → Option (List (String × Bytes) × List Token)
  | .version :: ts => if hasVersion then none else directives? true handles ts
  | .handle name meaning :: ts =>
    if handles.any (·.1 == name) then none
    else directives? hasVersion ((name, meaning) :: handles) ts
  | ts => some (handles, ts)

/-- The handles that need not be declared. -/
def knownHandles : List (String × Bytes) :=
  [("!", [octet '!']), ("!!", "tag:yaml.org,2002:".toList.map octet)]

/-- What may stand behind the mark that begins a document, if there is nothing in it. -/
def isNoDocument : List Token → Bool
  | [] => true
  | t :: _ => match t with
    | .version | .handle _ _ | .documentStart | .documentEnd => true
    | _ => false

/-- A document. It needs no mark at its beginning unless there are directives before it, or nothing
is in it. -/
def document : Grammar Node := do
  let r ← get
  match r.tokens with
  | [] => return .nothing
  | .version :: _ | .handle _ _ :: _ | .documentStart :: _ =>
    let (handles, tokens) ← directives? false [] r.tokens
    set { r with handles := handles ++ knownHandles, tokens }
    expect .documentStart
    let tokens := (← get).tokens
    if isNoDocument tokens then return .nothing else node (tokens.length + 1) .block
  | tokens => node (tokens.length + 1) .block

end Grammar

/-- **The document of a sequence of tokens**, which nothing follows but marks of its end. -/
def Document.ofTokens? (ts : List Token) : Option Document := do
  let (root, r) ← Grammar.document.run ⟨ts, Grammar.knownHandles, [], [], []⟩
  if r.tokens.all (· == .documentEnd) then
    return ⟨root, r.bearers.filterMap fun b => (r.nodes.lookup b.2).map (b.1, ·)⟩
  else none

/-- **The document of a text.** -/
def Document.ofText? (s : String) : Option Document :=
  (tokens? s).bind ofTokens?

end ProofLogin.Yaml
