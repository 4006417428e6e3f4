/-!
# Text/Blank — white space, and texts without it at their ends

The blanks are the characters with the property `White_Space`: the ASCII ones, the next-line
control, the no-break blank and the blanks of the general punctuation block. The byte order mark
and the zero-width blank are not among them.
-/

namespace ProofLogin.Text

/-- White space. -/
def isBlank (c : Char) : Bool :=
  let n := c.toNat
  (0x09 ≤ n && n ≤ 0x0D) || n == 0x20 || n == 0x85 || n == 0xA0 || n == 0x1680
    || (0x2000 ≤ n && n ≤ 0x200A) || n == 0x2028 || n == 0x2029 || n == 0x202F || n == 0x205F
    || n == 0x3000

/-- The characters without the blanks at either end. -/
def trimChars (cs : List Char) : List Char :=
  ((cs.dropWhile isBlank).reverse.dropWhile isBlank).reverse

/-- **The text without the blanks at either end.** -/
def trim (s : String) : String :=
  String.ofList (trimChars s.toList)

end ProofLogin.Text
