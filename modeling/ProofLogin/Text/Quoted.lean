import ProofLogin.Text.Printable

/-!
# Text/Quoted — texts as messages show them

A quoted text stands between double quotes, a quoted character between single ones. The closing
mark, the backslash, four controls and every character that is not printable are escaped, the last
by their code point in lower-case hexadecimal.
-/

namespace ProofLogin.Text

/-- `n` in lower-case hexadecimal, without leading zeros. -/
def hexNumber (n : Nat) : String :=
  String.ofList (Nat.toDigits 16 n)

/-- One character as it stands between two `mark`s. -/
def escapeChar (mark c : Char) : String :=
  if c = mark || c = '\\' then String.ofList ['\\', c]
  else if c = '\n' then "\\n"
  else if c = '\r' then "\\r"
  else if c = '\t' then "\\t"
  else if c.toNat = 0 then "\\0"
  else if isPrintable c then c.toString
  else "\\u\x7b" ++ hexNumber c.toNat ++ "\x7d"

/-- **The quoted form of a text.** -/
def quoted (s : String) : String :=
  "\"" ++ String.join (s.toList.map (escapeChar '"')) ++ "\""

/-- **The quoted form of a character.** -/
def quotedChar (c : Char) : String :=
  "'" ++ escapeChar '\'' c ++ "'"

end ProofLogin.Text
