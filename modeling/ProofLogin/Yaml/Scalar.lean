import ProofLogin.Encoding.Hex
import ProofLogin.Yaml.Glyph

/-!
# Yaml/Scalar — texts in a settings file

A scalar is written plain, in single or double quotes, or as a block of lines. Plain and quoted ones
may go over several lines: a single end of a line between two words is read as a blank, and of
several ends in a row the first one is dropped. In a block every end of a line counts, unless the
block is folded.

Each reader takes the glyphs after the mark that begins the scalar, and returns the text and the
glyphs after it.
-/

namespace ProofLogin.Yaml

/-- How a scalar is written. -/
inductive Style where
  | plain
  | quoted
  | literal
  | folded
  deriving DecidableEq, Repr

/-- **A scalar**: its text and how it is written. -/
structure Scalar where
  style : Style
  text : String
  deriving DecidableEq, Repr

/-! ## Between two words -/

/-- **What has been read since the last word**, the last character first: blanks of one line, or the
ends of lines, of which `first` is the one that may be folded. -/
inductive Gap where
  | blanks (cs : List Char)
  | breaks (first : Option Char) (more : List Char)
  deriving DecidableEq, Repr

namespace Gap

/-- Nothing between two characters. -/
def none : Gap := .blanks []

/-- One character more. The blanks at the end and at the beginning of a line do not count. -/
def push (c : Char) : Gap → Gap
  | .blanks cs => if isBreak c then .breaks (some c) [] else .blanks (c :: cs)
  | .breaks first more => if isBreak c then .breaks first (c :: more) else .breaks first more

/-- The end of a line is part of the gap. -/
def isBroken : Gap → Bool
  | .blanks _ => false
  | .breaks _ _ => true

/-- What the gap is read as, the last character first. -/
def read : Gap → List Char
  | .blanks cs => cs
  | .breaks (some '\n') [] => [' ']
  | .breaks (some '\n') more => more
  | .breaks first more => more ++ first.toList

end Gap

/-! ## Plain scalars -/

/-- **A plain scalar that has been read**: its text, whether the end of a line follows, and the
glyphs after that. -/
structure PlainRun where
  text : String
  isBroken : Bool
  rest : List Glyph

/-- What ends a plain scalar, or stands between its items, inside of brackets. -/
def flowMarks : List Char := [',', '[', ']', '\x7b', '\x7d']

/-- A colon inside of brackets that a mark follows, so that it is neither text nor the end of a key.
-/
def isStrayColon (c : Char) (next : List Glyph) : Bool :=
  c == ':' && next.head?.any fun g => g.char == '?' || flowMarks.contains g.char

/-- A colon that ends a key, or a mark inside of brackets. -/
def endsPlain (inFlow : Bool) (c : Char) (next : List Glyph) : Bool :=
  (c == ':' && endsWord next) || (inFlow && flowMarks.contains c)

/-- A word after a gap that does not belong to the scalar: a comment, a mark of a document, or a
line that begins before the column `least`. -/
def isOutside (inFlow : Bool) (least : Nat) (g : Glyph) (next : List Glyph) : Bool :=
  g.char == '#' || isDocumentMark (g :: next) || (!inFlow && g.column < least)

/-- **A plain scalar**, `said` of it and the gap after that being read already. A line of it must
not begin before the column `least`, and no tab stands before that column. -/
def plain? (inFlow : Bool) (least : Nat) (said : List Char) (gap : Gap) :
    List Glyph → Option PlainRun
  | [] => some ⟨String.ofList said.reverse, gap.isBroken, []⟩
  | g :: gs =>
    if isGap g.char || isBreak g.char then
      if g.char = '\t' ∧ gap.isBroken ∧ g.column < least then none
      else plain? inFlow least said (gap.push g.char) gs
    else if gap ≠ .none ∧ isOutside inFlow least g gs then
      some ⟨String.ofList said.reverse, gap.isBroken, g :: gs⟩
    else if inFlow ∧ isStrayColon g.char gs then none
    else if endsPlain inFlow g.char gs then
      some ⟨String.ofList said.reverse, gap.isBroken, g :: gs⟩
    else plain? inFlow least (g.char :: gap.read ++ said) .none gs

/-! ## Quoted scalars -/

/-- **A text in single quotes**, inside of which a quote is written twice. -/
def singleQuoted? (said : List Char) (gap : Gap) : List Glyph → Option (String × List Glyph)
  | [] => none
  | g :: gs =>
    if isDocumentMark (g :: gs) then none
    else if isGap g.char || isBreak g.char then singleQuoted? said (gap.push g.char) gs
    else if g.char = '\'' then
      match gs with
      | [] => some (String.ofList (gap.read ++ said).reverse, [])
      | g' :: gs' =>
        if g'.char = '\'' then singleQuoted? ('\'' :: gap.read ++ said) .none gs'
        else some (String.ofList (gap.read ++ said).reverse, g' :: gs')
    else singleQuoted? (g.char :: gap.read ++ said) .none gs

/-- The characters that a letter or mark after a backslash stands for. -/
def escapes : List (Char × Char) :=
  [('0', '\x00'), ('a', '\x07'), ('b', '\x08'), ('t', '\t'), ('\t', '\t'), ('n', '\n'),
    ('v', '\x0b'), ('f', '\x0c'), ('r', '\r'), ('e', '\x1b'), (' ', ' '), ('"', '"'), ('/', '/'),
    ('\\', '\\'), ('N', '\u0085'), ('_', '\u00a0'), ('L', '\u2028'), ('P', '\u2029')]

/-- The number of hexadecimal digits that follow a letter after a backslash. -/
def escapeDigits : List (Char × Nat) :=
  [('x', 2), ('u', 4), ('U', 8)]

/-- How the next character in double quotes is understood: as text, as what follows a backslash, or
as one of the digits of a number, of which `left` are still to come and `value` is read already. -/
inductive QuoteMode where
  | text
  | escape
  | digits (left value : Nat)

/-- **A text in double quotes**, where a backslash begins an escape. A backslash at the end of a
line joins it to the next one. -/
def doubleQuoted? (said : List Char) (gap : Gap) (mode : QuoteMode) :
    List Glyph → Option (String × List Glyph)
  | [] => none
  | g :: gs =>
    match mode with
    | .text =>
      if isDocumentMark (g :: gs) then none
      else if isGap g.char || isBreak g.char then doubleQuoted? said (gap.push g.char) .text gs
      else if g.char = '"' then some (String.ofList (gap.read ++ said).reverse, gs)
      else if g.char = '\\' then doubleQuoted? (gap.read ++ said) .none .escape gs
      else doubleQuoted? (g.char :: gap.read ++ said) .none .text gs
    | .escape =>
      if isBreak g.char then doubleQuoted? said (.breaks none []) .text gs
      else match escapes.lookup g.char, escapeDigits.lookup g.char with
        | some c, _ => doubleQuoted? (c :: said) .none .text gs
        | none, some left => doubleQuoted? said .none (.digits left 0) gs
        | none, none => none
    | .digits left value => do
      let value := value * 16 + (← Hex.ofChar? g.char)
      if left = 1 then
        if value.isValidChar then doubleQuoted? (Char.ofNat value :: said) .none .text gs else none
      else doubleQuoted? said .none (.digits (left - 1) value) gs

/-! ## Blocks of lines -/

/-- What becomes of the ends of lines at the end of a block. -/
inductive Chomp where
  | strip
  | clip
  | keep
  deriving DecidableEq, Repr

/-- The mark of what becomes of the last ends of lines. -/
def Chomp.ofMark? : Char → Option Chomp
  | '-' => some .strip
  | '+' => some .keep
  | _ => none

/-- The digit that says how far a block is indented. -/
def indentStep? (c : Char) : Option Nat :=
  if '1' ≤ c ∧ c ≤ '9' then some (c.toNat - '0'.toNat) else none

/-- What stands after the mark of a block: at most one mark and one digit, in any order. A block
that names no indentation has that of its first line. -/
def blockHeader? : List Char → Option (Chomp × Option Nat)
  | [] => some (.clip, none)
  | [a] => match Chomp.ofMark? a with
    | some chomp => some (chomp, none)
    | none => (indentStep? a).map fun step => (.clip, some step)
  | [a, b] => match Chomp.ofMark? a with
    | some chomp => (indentStep? b).map fun step => (chomp, some step)
    | none => do return (← Chomp.ofMark? b, some (← indentStep? a))
  | _ => none

/-- The greatest column among the blank lines before a block and the line after them. A tab that
might be part of the indentation is refused. -/
def indentation? (most : Nat) : List Glyph → Option Nat
  | [] => some most
  | g :: gs =>
    if g.char = '\t' then none
    else if g.char = ' ' then indentation? most gs
    else if isBreak g.char then indentation? (max most g.column) gs
    else some (max most g.column)

/-- **A block as it is read**: what it says so far, the end of the last line with text, the ends of
the blank lines after that, whether the last line with text begins with a gap, and whether a line is
being read. All characters are listed the last one first. -/
structure BlockRun where
  said : List Char
  ending : Option Char
  blankEnds : List Char
  isLed : Bool
  isOpen : Bool

namespace BlockRun

/-- Nothing read. -/
def empty : BlockRun := ⟨[], none, [], false, false⟩

/-- A line more, which begins with the character `c`. Where a block is folded, the end between two
lines is read as a blank or dropped, unless one of them begins with a gap. -/
def openLine (style : Style) (c : Char) (b : BlockRun) : BlockRun :=
  let isFolded := style == .folded && b.ending == some '\n' && !b.isLed && !isGap c
  let said :=
    if !isFolded then b.blankEnds ++ b.ending.toList ++ b.said
    else if b.blankEnds = [] then ' ' :: b.said
    else b.blankEnds ++ b.said
  ⟨c :: said, none, [], isGap c, true⟩

/-- The text of the block. -/
def text (chomp : Chomp) (b : BlockRun) : String :=
  String.ofList <| List.reverse <| match chomp with
    | .strip => b.said
    | .clip => b.ending.toList ++ b.said
    | .keep => b.blankEnds ++ b.ending.toList ++ b.said

end BlockRun

/-- The lines of a block from the column `indent` on. The first character before that column that is
neither a blank nor the end of a line ends the block. -/
def blockLines? (style : Style) (indent : Nat) (b : BlockRun) :
    List Glyph → Option (BlockRun × List Glyph)
  | [] => some (b, [])
  | g :: gs =>
    if b.isOpen then
      if isBreak g.char then
        blockLines? style indent { b with ending := some g.char, isOpen := false } gs
      else blockLines? style indent { b with said := g.char :: b.said } gs
    else if isBreak g.char then
      blockLines? style indent { b with blankEnds := g.char :: b.blankEnds } gs
    else if indent ≤ g.column then blockLines? style indent (b.openLine style g.char) gs
    else if g.char = ' ' then blockLines? style indent b gs
    else if g.char = '\t' then none
    else some (b, g :: gs)

/-- **A block of lines** below a line whose indentation leaves the columns from `least` on. -/
def block? (style : Style) (least : Nat) (gs : List Glyph) : Option (Scalar × List Glyph) := do
  let (header, gs) := spanGlyphs (fun c => !isGap c && !isBreak c && c != '#') gs
  let (chomp, step) ← blockHeader? (Glyph.chars header)
  let gs ← afterLine? gs
  let indent ← match step with
    | some step => some (least - 1 + step)
    | none => (indentation? 0 gs).map fun most => max most (max least 1)
  let (b, rest) ← blockLines? style indent .empty gs
  return (⟨style, b.text chomp⟩, rest)

end ProofLogin.Yaml
