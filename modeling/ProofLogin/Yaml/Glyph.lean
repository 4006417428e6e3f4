/-!
# Yaml/Glyph — the characters of a settings file and where they stand

The reading of YAML hangs on columns and lines, so every character is given its place first. The
ends of lines are told apart no further than the reading needs: `ofText?` turns the carriage return,
alone or with a line feed, and the next-line control into a line feed, and leaves the separators of
lines and paragraphs. A text with a character that YAML does not allow has no glyphs.
-/

namespace ProofLogin.Yaml

/-! ## Kinds of characters -/

/-- What ends a line. -/
def isBreak (c : Char) : Bool :=
  c == '\n' || c == '\u2028' || c == '\u2029'

/-- What stands between the words of a line. -/
def isGap (c : Char) : Bool :=
  c == ' ' || c == '\t'

/-- What a name consists of: ASCII letters, digits, the hyphen and the underscore. -/
def isName (c : Char) : Bool :=
  c.isAlphanum || c == '-' || c == '_'

/-- What a text may hold: no controls but the tab and those that end a line, and neither of the two
characters past `FFFD` that no text uses. -/
def isAllowed (c : Char) : Bool :=
  let n := c.toNat
  c == '\t' || c == '\n' || c == '\r' || c == '\u0085' || (0x20 ≤ n && n ≤ 0x7E)
    || (0xA0 ≤ n && n ≤ 0xFFFD) || 0x10000 ≤ n

/-! ## Glyphs -/

/-- **A character in its place**: its line, its column in the line, and the number of characters
before it, all counted from zero. -/
structure Glyph where
  char : Char
  line : Nat
  column : Nat
  index : Nat
  deriving DecidableEq, Repr

namespace Glyph

/-- The glyphs of characters of which the first one has the given place. -/
def place (line column index : Nat) : List Char → List Glyph
  | [] => []
  | '\r' :: '\n' :: cs => ⟨'\n', line, column, index⟩ :: place (line + 1) 0 (index + 2) cs
  | c :: cs =>
    if c = '\r' ∨ c = '\n' ∨ c = '\u0085' then
      ⟨'\n', line, column, index⟩ :: place (line + 1) 0 (index + 1) cs
    else if isBreak c then ⟨c, line, column, index⟩ :: place (line + 1) 0 (index + 1) cs
    else ⟨c, line, column, index⟩ :: place line (column + 1) (index + 1) cs

/-- **The glyphs of a text**, if all of its characters are allowed. -/
def ofText? (s : String) : Option (List Glyph) :=
  if s.toList.all isAllowed then some (place 0 0 0 s.toList) else none

/-- The characters of glyphs. -/
def chars (gs : List Glyph) : List Char :=
  gs.map Glyph.char

end Glyph

/-! ## What glyphs begin with -/

/-- A gap, the end of a line or the end of the text. -/
def endsWord : List Glyph → Bool
  | [] => true
  | g :: _ => isGap g.char || isBreak g.char

/-- Three times the character `c` at the beginning of a line, and no more on the word: the mark that
begins or ends a document. -/
def isMark (c : Char) : List Glyph → Bool
  | g :: g' :: g'' :: gs =>
    g.column == 0 && g.char == c && g'.char == c && g''.char == c && endsWord gs
  | _ => false

/-- The mark that begins a document, or the one that ends it. -/
def isDocumentMark (gs : List Glyph) : Bool :=
  isMark '-' gs || isMark '.' gs

/-- The first glyphs with a property of their characters, and the others. -/
def spanGlyphs (p : Char → Bool) (gs : List Glyph) : List Glyph × List Glyph :=
  (gs.takeWhile fun g => p g.char, gs.dropWhile fun g => p g.char)

/-- The glyphs after the line, if nothing is left on it but a gap and a comment. A comment needs no
gap before it. -/
def afterLine? (gs : List Glyph) : Option (List Glyph) :=
  match gs.dropWhile fun g => isGap g.char with
  | [] => some []
  | g :: gs =>
    if g.char = '#' then some ((gs.dropWhile fun g => !isBreak g.char).drop 1)
    else if isBreak g.char then some gs
    else none

end ProofLogin.Yaml
