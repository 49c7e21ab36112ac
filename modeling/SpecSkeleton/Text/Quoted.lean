import SpecSkeleton.Text.Printable

/-!
# Quoted texts

A text in a message stands between single quotes, or between double ones if it holds a single quote
and no double one. A character that cannot be printed is shown by its number.
-/

namespace SpecSkeleton.Text

/-- The last `width` hexadecimal digits of a number. -/
def hex : Nat → Nat → List Char
  | 0, _ => []
  | width + 1, n => hex width (n / 16) ++ [Nat.digitChar (n % 16)]

def quoteMark (cs : List Char) : Char :=
  if cs.contains '\'' && !cs.contains '"' then '"' else '\''

/-- How a character is written between the quotes `mark`. -/
def escapeIn (mark c : Char) : List Char :=
  if c = mark || c = '\\' then ['\\', c]
  else if c = '\n' then ['\\', 'n']
  else if c = '\r' then ['\\', 'r']
  else if c = '\t' then ['\\', 't']
  else if isPrintable c then [c]
  else if c.toNat ≤ 0xFF then '\\' :: 'x' :: hex 2 c.toNat
  else if c.toNat ≤ 0xFFFF then '\\' :: 'u' :: hex 4 c.toNat
  else '\\' :: 'U' :: hex 8 c.toNat

def quoteChars (cs : List Char) : List Char :=
  let mark := quoteMark cs
  mark :: cs.flatMap (escapeIn mark) ++ [mark]

def quoted (s : String) : String :=
  String.ofList (quoteChars s.toList)

end SpecSkeleton.Text
