import ProofLogin.Bytes
import ProofLogin.Yaml.Scalar

/-!
# Yaml/Token — the parts of a settings file

A file is a sequence of tokens: the scalars, the marks between them, and marks for the begin and the
end of every block, which the indentation alone shows. A key is known only by the colon behind it,
so what may turn out to be a key is kept in mind as a `PendingKey`, and the marks that belong before
it are put there afterwards.
-/

namespace ProofLogin.Yaml

/-- **A part of a file.** -/
inductive Token where
  | version
  | handle (name : String) (meaning : Bytes)
  | documentStart
  | documentEnd
  | blockSequence
  | blockMapping
  | blockEnd
  | openSequence
  | closeSequence
  | openMapping
  | closeMapping
  | comma
  | item
  | key
  | value
  | alias (name : String)
  | anchor (name : String)
  | tag (handle : String) (suffix : Bytes)
  | scalar (s : Scalar)
  deriving DecidableEq, Repr

/-! ## Tags -/

/-- The octet of an ASCII character. -/
def octet (c : Char) : UInt8 := UInt8.ofNat c.toNat

/-- What a tag consists of; inside of angle brackets and in directives also what ends items. -/
def isTagChar (isWhole : Bool) (c : Char) : Bool :=
  isName c || ";/?:@&=+$.%!~*'()".toList.contains c || (isWhole && [',', '[', ']'].contains c)

/-- The number of octets that follow the first one of a character. -/
def octetsAfter? (first : Nat) : Option Nat :=
  if first < 0x80 then some 0
  else if 0xC0 ≤ first ∧ first < 0xE0 then some 1
  else if 0xE0 ≤ first ∧ first < 0xF0 then some 2
  else if 0xF0 ≤ first ∧ first < 0xF8 then some 3
  else none

/-- The octets of the characters of a tag, where a percent sign stands before two digits. `left`
octets are still missing of a character. -/
def unescapeTag? : (left : Nat) → List Char → Option Bytes
  | 0, [] => some []
  | _ + 1, [] => none
  | left, '%' :: a :: b :: cs => do
    let n := (← Hex.ofChar? a) * 16 + (← Hex.ofChar? b)
    let left ← match left with
      | 0 => octetsAfter? n
      | left + 1 => if 0x80 ≤ n ∧ n < 0xC0 then some left else none
    return UInt8.ofNat n :: (← unescapeTag? left cs)
  | 0, c :: cs => if c = '%' then none else (unescapeTag? 0 cs).map (octet c :: ·)
  | _ + 1, _ :: _ => none

/-- The octets of a tag. An octet of zero ends them. -/
def tagOctets? (cs : List Char) : Option Bytes :=
  (unescapeTag? 0 cs).map fun octets => octets.takeWhile (· ≠ 0)

/-- A tag after its exclamation mark, not in angle brackets: a handle with a suffix, a suffix alone,
or nothing. -/
def shortTag? (cs : List Char) : Option Token := do
  let name := cs.takeWhile isName
  match cs.drop name.length with
  | '!' :: suffix =>
    if suffix = [] then none
    else return .tag (String.ofList ('!' :: name ++ ['!'])) (← tagOctets? suffix)
  | _ => match ← tagOctets? cs with
    | [] => return .tag "" [octet '!']
    | octets => return .tag "!" octets

/-- A tag after its exclamation mark. -/
def tag? (gs : List Glyph) : Option (Token × List Glyph) := do
  match gs with
  | ⟨'<', _, _, _⟩ :: gs =>
    let (inside, rest) := spanGlyphs (isTagChar true) gs
    match rest with
    | ⟨'>', _, _, _⟩ :: rest =>
      if inside = [] then none else return (.tag "" (← tagOctets? (Glyph.chars inside)), rest)
    | _ => none
  | gs =>
    let (inside, rest) := spanGlyphs (isTagChar false) gs
    return (← shortTag? (Glyph.chars inside), rest)

/-! ## Directives -/

/-- A number of at most nine digits. -/
def versionPart? (gs : List Glyph) : Option (Nat × List Glyph) :=
  let (digits, rest) := spanGlyphs Char.isDigit gs
  if digits = [] ∨ 9 < digits.length then none
  else some ((Glyph.chars digits).foldl (fun n c => n * 10 + (c.toNat - '0'.toNat)) 0, rest)

/-- The version of YAML that a file is written in: 1.1 or 1.2. -/
def version? (gs : List Glyph) : Option (Token × List Glyph) := do
  let (major, gs) ← versionPart? gs
  match gs with
  | ⟨'.', _, _, _⟩ :: gs =>
    let (minor, gs) ← versionPart? gs
    if major = 1 ∧ (minor = 1 ∨ minor = 2) then return (.version, gs) else none
  | _ => none

/-- A handle and what it stands for. -/
def handle? (gs : List Glyph) : Option (Token × List Glyph) := do
  match gs with
  | ⟨'!', _, _, _⟩ :: gs =>
    let (name, gs) := spanGlyphs isName gs
    let (closing, gs) := match gs with
      | ⟨'!', _, _, _⟩ :: gs => (['!'], gs)
      | gs => ([], gs)
    if name ≠ [] ∧ closing = [] then none
    else
      let (gap, gs) := spanGlyphs isGap gs
      let (meaning, gs) := spanGlyphs (isTagChar true) gs
      if gap = [] ∨ meaning = [] ∨ !endsWord gs then none
      else
        return (.handle (String.ofList ('!' :: Glyph.chars name ++ closing))
          (← tagOctets? (Glyph.chars meaning)), gs)
  | _ => none

/-- A directive after its percent sign, with the rest of its line. -/
def directive? (gs : List Glyph) : Option (Token × List Glyph) := do
  let (name, gs) := spanGlyphs isName gs
  let content := gs.dropWhile fun g => isGap g.char
  let (token, gs) ←
    if !endsWord gs then none
    else if Glyph.chars name = ['Y', 'A', 'M', 'L'] then version? content
    else if Glyph.chars name = ['T', 'A', 'G'] then handle? content
    else none
  return (token, ← afterLine? gs)

/-! ## The state of the reading -/

/-- **What may turn out to be a key**: the number of tokens before it, its first glyph, and whether
it has to be a key because it begins a line of a block. -/
structure PendingKey where
  position : Nat
  start : Glyph
  isRequired : Bool
  deriving DecidableEq, Repr

/-- A key has to end on its line, and not too far from its beginning. -/
def PendingKey.isStale (k : PendingKey) (g : Glyph) : Bool :=
  k.start.line < g.line || k.start.index + 1024 < g.index

/-- **What has been read of a file**: the tokens, the last one first, the columns of the open
blocks, the innermost first, whether a key may begin here, what may be a key, and what may be one
around each open bracket. -/
structure Lexer where
  tokens : List Token
  columns : List Nat
  keyAllowed : Bool
  pending : Option PendingKey
  around : List (Option PendingKey)

namespace Lexer

/-- Nothing read. -/
def start : Lexer := ⟨[], [], true, none, []⟩

/-- The reading is inside of brackets. -/
def inFlow (s : Lexer) : Bool := !s.around.isEmpty

/-- The first column that belongs inside of the innermost block. -/
def least (s : Lexer) : Nat :=
  match s.columns with
  | [] => 0
  | column :: _ => column + 1

/-- A token more. -/
def push (t : Token) (s : Lexer) : Lexer := { s with tokens := t :: s.tokens }

/-- A token put in its place after the first `position` tokens. -/
def insert (position : Nat) (t : Token) (s : Lexer) : Lexer :=
  let later := s.tokens.length - position
  { s with tokens := s.tokens.take later ++ t :: s.tokens.drop later }

/-- A key may or may not begin after this. -/
def allowKey (b : Bool) (s : Lexer) : Lexer := { s with keyAllowed := b }

/-! ## Pending keys -/

/-- What may still be a key at a glyph. -/
def unstale? (g : Glyph) : Option PendingKey → Option (Option PendingKey)
  | none => some none
  | some k => if !k.isStale g then some (some k) else if k.isRequired then none else some none

/-- All that may still be a key at a glyph. -/
def expire? (g : Glyph) (s : Lexer) : Option Lexer := do
  return { s with pending := ← unstale? g s.pending, around := ← s.around.mapM (unstale? g) }

/-- What was pending is no key. -/
def forget? (s : Lexer) : Option Lexer :=
  if s.pending.any PendingKey.isRequired then none else some { s with pending := none }

/-- What begins at a glyph may be a key, if one may begin here. -/
def save? (g : Glyph) (s : Lexer) : Option Lexer :=
  if s.keyAllowed then do
    let s ← s.forget?
    return { s with
      pending := some ⟨s.tokens.length, g, !s.inFlow && s.columns.head? == some g.column⟩ }
  else some s

/-! ## Blocks -/

/-- A block that begins at a column, if it is further indented than the innermost one. -/
def openBlock (column position : Nat) (t : Token) (s : Lexer) : Lexer :=
  if s.inFlow ∨ column < s.least then s
  else { s.insert position t with columns := column :: s.columns }

/-- The blocks with a column that `isOver` holds of are at their end. -/
def closeBlocks (isOver : Nat → Bool) (s : Lexer) : Lexer :=
  if s.inFlow then s
  else { s with
    columns := s.columns.dropWhile isOver
    tokens := (s.columns.takeWhile isOver).map (fun _ => .blockEnd) ++ s.tokens }

/-- A mark of the whole file ends every block. -/
def atMargin? (s : Lexer) : Option Lexer :=
  (s.closeBlocks fun _ => true).forget?.map (·.allowKey false)

/-! ## Marks -/

/-- A bracket that opens. What it opens may be a key. -/
def openFlow? (g : Glyph) (t : Token) (s : Lexer) : Option Lexer := do
  let s ← s.save? g
  return { s.push t with keyAllowed := true, pending := none, around := s.pending :: s.around }

/-- A bracket that closes. -/
def closeFlow? (t : Token) (s : Lexer) : Option Lexer := do
  let s ← s.forget?
  let s := (s.push t).allowKey false
  return match s.around with
    | [] => s
    | pending :: around => { s with pending, around }

/-- A comma. -/
def comma? (s : Lexer) : Option Lexer :=
  s.forget?.map fun s => (s.push .comma).allowKey true

/-- A mark at a column where a key may begin, which opens a block of its own there. -/
def openMark? (column : Nat) (block : Token) (s : Lexer) : Option Lexer :=
  if s.inFlow then some s
  else if s.keyAllowed then some (s.openBlock column s.tokens.length block)
  else none

/-- The hyphen before an item. -/
def item? (g : Glyph) (s : Lexer) : Option Lexer := do
  let s ← (← s.openMark? g.column .blockSequence).forget?
  return (s.push .item).allowKey true

/-- The question mark before a key. -/
def key? (g : Glyph) (s : Lexer) : Option Lexer := do
  let s ← (← s.openMark? g.column .blockMapping).forget?
  return (s.push .key).allowKey !s.inFlow

/-- **The colon before a value.** What was pending is a key, and what a key begins is put before
it. -/
def value? (g : Glyph) (s : Lexer) : Option Lexer :=
  match s.pending with
  | some k =>
    let s := (s.insert k.position .key).openBlock k.start.column k.position .blockMapping
    some { s.push .value with pending := none, keyAllowed := false }
  | none => do
    let s ← s.openMark? g.column .blockMapping
    return (s.push .value).allowKey !s.inFlow

/-! ## Names, tags and scalars -/

/-- What may stand right behind the name of an anchor. -/
def endsName (gs : List Glyph) : Bool :=
  endsWord gs || gs.head?.any fun g => "?:,]\x7d%@\x60".toList.contains g.char

/-- The name of an anchor after its mark. -/
def name? (gs : List Glyph) : Option (String × List Glyph) :=
  let (name, rest) := spanGlyphs isName gs
  if name ≠ [] ∧ endsName rest then some (String.ofList (Glyph.chars name), rest) else none

/-- A token that may begin a key. -/
def begin? (g : Glyph) (s : Lexer) : Option Lexer :=
  (s.save? g).map (·.allowKey false)

/-- A tag, which has to end where a word ends or, inside of brackets, before a comma. -/
def pushTag? (g : Glyph) (gs : List Glyph) (s : Lexer) : Option (Lexer × List Glyph) := do
  let (token, rest) ← tag? gs
  if endsWord rest ∨ (s.inFlow ∧ rest.head?.any fun g => g.char == ',') then
    return ((← s.begin? g).push token, rest)
  else none

/-- A plain scalar. Behind the end of its line a key may begin. -/
def pushPlain? (g : Glyph) (gs : List Glyph) (s : Lexer) : Option (Lexer × List Glyph) := do
  let run ← plain? s.inFlow s.least [] .none (g :: gs)
  let s ← s.begin? g
  return ((s.push (.scalar ⟨.plain, run.text⟩)).allowKey run.isBroken, run.rest)

/-- A block of lines. -/
def pushBlock? (style : Style) (gs : List Glyph) (s : Lexer) : Option (Lexer × List Glyph) := do
  let (scalar, rest) ← block? style s.least gs
  return (((← s.forget?).push (.scalar scalar)).allowKey true, rest)

/-! ## Steps -/

/-- The glyphs after gaps, comments and ends of lines. Behind the end of a line a key may begin. A
tab is no gap where a key may begin; the mark of the byte order is one at the beginning of a
line. -/
def skip (inComment : Bool) (s : Lexer) : List Glyph → Lexer × List Glyph
  | [] => (s, [])
  | g :: gs =>
    if isBreak g.char then skip false (s.allowKey (s.keyAllowed || !s.inFlow)) gs
    else if inComment then skip true s gs
    else if g.char = ' ' ∨ (g.char = '\t' ∧ (s.inFlow ∨ !s.keyAllowed)) then skip false s gs
    else if g.char = '\ufeff' ∧ g.column = 0 then skip false s gs
    else if g.char = '#' then skip true s gs
    else (s, g :: gs)

/-- **The token that a glyph begins**, and the glyphs after it. -/
def token? (g : Glyph) (gs : List Glyph) (s : Lexer) : Option (Lexer × List Glyph) := do
  let isAlone := s.inFlow || endsWord gs
  if g.char = '%' ∧ g.column = 0 then
    let (token, rest) ← directive? gs
    return ((← s.atMargin?).push token, rest)
  else if isMark '-' (g :: gs) then return ((← s.atMargin?).push .documentStart, gs.drop 2)
  else if isMark '.' (g :: gs) then return ((← s.atMargin?).push .documentEnd, gs.drop 2)
  else if g.char = '-' ∧ endsWord gs then return (← s.item? g, gs)
  else if g.char = '?' ∧ isAlone then return (← s.key? g, gs)
  else if g.char = ':' ∧ isAlone then return (← s.value? g, gs)
  else if (g.char = '|' ∨ g.char = '>') ∧ !s.inFlow then
    s.pushBlock? (if g.char = '|' then .literal else .folded) gs
  else match g.char with
    | '[' => return (← s.openFlow? g .openSequence, gs)
    | '\x7b' => return (← s.openFlow? g .openMapping, gs)
    | ']' => return (← s.closeFlow? .closeSequence, gs)
    | '\x7d' => return (← s.closeFlow? .closeMapping, gs)
    | ',' => return (← s.comma?, gs)
    | '*' => do
      let (name, rest) ← name? gs
      return ((← s.begin? g).push (.alias name), rest)
    | '&' => do
      let (name, rest) ← name? gs
      return ((← s.begin? g).push (.anchor name), rest)
    | '!' => s.pushTag? g gs
    | '\'' => do
      let (text, rest) ← singleQuoted? [] .none gs
      return ((← s.begin? g).push (.scalar ⟨.quoted, text⟩), rest)
    | '"' => do
      let (text, rest) ← doubleQuoted? [] .none .text gs
      return ((← s.begin? g).push (.scalar ⟨.quoted, text⟩), rest)
    | c => if "\t|>%@\x60".toList.contains c then none else s.pushPlain? g gs

/-- **The tokens of the glyphs that are left.** Every token takes a glyph at least. -/
def run? (s : Lexer) (gs : List Glyph) : Option (List Token) :=
  match s.skip false gs with
  | (s, []) => s.atMargin?.map fun s => s.tokens.reverse
  | (s, g :: rest) => do
    let s ← s.expire? g
    let (s, rest) ← (s.closeBlocks fun column => g.column < column).token? g rest
    if rest.length < gs.length then run? s rest else none
termination_by gs.length

end Lexer

/-- **The tokens of a text.** -/
def tokens? (s : String) : Option (List Token) := do
  Lexer.start.run? (← Glyph.ofText? s)

end ProofLogin.Yaml
