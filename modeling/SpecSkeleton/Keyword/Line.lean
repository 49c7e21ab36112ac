import SpecSkeleton.Kind
import SpecSkeleton.Text.Blank

/-!
# Keyword lines

A row opens an element when it holds, after its leading blanks, an optional receiver `RSpec.`, one
of the twelve keywords, a blank, and something to name the element by. Letter case is ignored, in
the wide sense in which the long s is an s and the dotted capital and the dotless small i are an i;
but only a keyword in plain letters has a kind.

What follows the keyword starts at its first character that is not blank and ends before the first
line end. If all of it is blank, its last character takes that part, unless that is a line end, and
then the last one that is none; the first blank after the keyword never does.
-/

namespace SpecSkeleton

open Text

/-- Whether `c` stands for the lower-case letter `k` when case is ignored. -/
def sameLetter (k c : Char) : Bool :=
  c == k || c.toLower == k || (k == 's' && c == 'ſ') || (k == 'i' && (c == 'İ' || c == 'ı'))

/-- Splits off a head that spells `word`, ignoring case. -/
def spelled? : List Char → List Char → Option (List Char × List Char)
  | [], cs => some ([], cs)
  | _ :: _, [] => none
  | k :: word, c :: cs =>
    if sameLetter k c then (spelled? word cs).map fun (head, rest) => (c :: head, rest) else none

/-- The characters that end the part of a row that names its element. -/
def isRowEnd (c : Char) : Bool :=
  c == '\r' || c == '\n' || c == '\u2028' || c == '\u2029'

def receiver : List Char :=
  ['r', 's', 'p', 'e', 'c', '.']

/-- What is left after the receiver, if it is there. -/
def dropReceiver (cs : List Char) : List Char :=
  match spelled? receiver cs with
  | some (_, rest) => rest
  | none => cs

/-- A keyword as it is written at the head of a text, and what follows it. -/
def keywordAt? (cs : List Char) : Option (List Char × List Char) :=
  Kind.all.findSome? fun k => spelled? k.letters cs

/-- The part of a row that names the element, given all that follows the keyword. -/
def namingPart? : List Char → Option (List Char)
  | [] => none
  | b :: cs =>
    if isBlank b then
      match cs.dropWhile isBlank with
      | [] => (cs.reverse.find? fun c => !isRowEnd c).map ([·])
      | c :: rest => some ((c :: rest).takeWhile fun d => !isRowEnd d)
    else none

/-- A row with a keyword, as written, at `indent` characters from its start. -/
structure KeywordLine where
  indent : Nat
  written : List Char
  naming : List Char
  deriving DecidableEq, Repr

/-- The number of blanks at the head of a row; a tabulator counts as one. -/
def indentation (row : List Char) : Nat :=
  (row.takeWhile isBlank).length

namespace KeywordLine

def ofRow? (row : List Char) : Option KeywordLine := do
  let (written, tail) ← keywordAt? (dropReceiver (row.dropWhile isBlank))
  let naming ← namingPart? tail
  return ⟨indentation row, written, naming⟩

/-- The kind of the keyword; none if a letter of it is no plain one. -/
def kind? (l : KeywordLine) : Option Kind :=
  Kind.ofLetters? (l.written.map Char.toLower)

end KeywordLine

end SpecSkeleton
