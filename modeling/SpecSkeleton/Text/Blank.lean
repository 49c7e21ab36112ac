import SpecSkeleton.Text.CharRange

/-!
# Blank characters

The characters that separate words: space, tabulators, line ends, and the spaces of every script.
`trim` removes them at both ends of a text and nowhere else. Around a number the four separators of
files, groups, records and units are no blanks.
-/

namespace SpecSkeleton.Text

/-- The blank characters, in increasing order. -/
def blankRanges : CharRanges := [
  (0x9, 0xD), (0x1C, 0x20), (0x85, 0x85), (0xA0, 0xA0), (0x1680, 0x1680), (0x2000, 0x200A),
  (0x2028, 0x2029), (0x202F, 0x202F), (0x205F, 0x205F), (0x3000, 0x3000)]

def isBlank (c : Char) : Bool :=
  blankRanges.has c

def trimStart (cs : List Char) : List Char :=
  cs.dropWhile isBlank

def trimEnd (cs : List Char) : List Char :=
  (trimStart cs.reverse).reverse

def trim (cs : List Char) : List Char :=
  trimEnd (trimStart cs)

/-- A blank in the narrow sense, without the separators of files, groups, records and units. -/
def isPlainBlank (c : Char) : Bool :=
  isBlank c && !(0x1C ≤ c.toNat && c.toNat ≤ 0x1F)

/-- Removes blanks in the narrow sense at both ends. -/
def trimPlain (cs : List Char) : List Char :=
  ((cs.dropWhile isPlainBlank).reverse.dropWhile isPlainBlank).reverse

end SpecSkeleton.Text
