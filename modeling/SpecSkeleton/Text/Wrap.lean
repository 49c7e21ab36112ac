import SpecSkeleton.Text.Blank
import SpecSkeleton.Text.Line
import SpecSkeleton.Text.Width

/-!
# Rows of a terminal

A line that is wider than the terminal, or than its column of a table, goes on in the next row. It
is broken before a word; blanks belong to the word before them. A word that is wider than a whole
row is folded over as many rows as it needs, or has a row of its own where what does not fit is left
out and three dots stand for it.
-/

namespace SpecSkeleton.Text

/-- Pieces of a line put together again with the blanks that lead to the next tab stop, given the
column that they start in. There is a tab stop at each multiple of eight, and at least one blank. -/
def joinAtTabStops (column : Nat) : List (List Char) → List Char
  | [] => []
  | [piece] => piece
  | piece :: pieces =>
    let column := column + columns (piece ++ [' '])
    let more := (8 - column % 8) % 8
    piece ++ List.replicate (1 + more) ' ' ++ joinAtTabStops (column + more) pieces

/-- A line with blanks in the place of its tabulators. -/
def expandTabs (line : List Char) : List Char :=
  joinAtTabStops 0 (pieces '\t' line)

/-- Where a reader of words stands: before the first of them, in one, or in the blanks after it. -/
inductive WordPlace where
  | before
  | inside
  | behind
  deriving DecidableEq, Repr

/-- The words of a line after the beginning of one, which runs backwards. -/
def wordsAfter (word : List Char) : WordPlace → List Char → List (List Char)
  | .before, [] => []
  | _, [] => [word.reverse]
  | place, c :: cs =>
    if isBlank c then wordsAfter (c :: word) (if place = .before then .before else .behind) cs
    else if place = .behind then word.reverse :: wordsAfter [c] .inside cs
    else wordsAfter (c :: word) .inside cs

/-- The words of a line, each with the blanks after it, and the first with those before it too. -/
def words (line : List Char) : List (List Char) :=
  wordsAfter [] .before line

/-- What becomes of a word that is wider than a row. -/
inductive Overflow where
  | fold
  | ellipsis
  deriving DecidableEq, Repr

/-- Sets words into rows of `n` columns; the first `used` columns of `row` are taken. -/
def setWords (o : Overflow) (n : Nat) (row : List Char) (used : Nat) :
    List (List Char) → List (List Char)
  | [] => [row]
  | word :: rest =>
    let needed := columns (trimEnd word)
    let finished := if row = [] then [] else [row]
    if used + needed ≤ n then setWords o n (row ++ word) (used + columns word) rest
    else if needed ≤ n ∨ o = .ellipsis then
      finished ++ setWords o n word (columns word) rest
    else
      let rows := chop n word
      let last := rows.getLastD []
      finished ++ rows.dropLast ++ setWords o n last (columns last) rest

def breakLine (o : Overflow) (n : Nat) (line : List Char) : List (List Char) :=
  match words line with
  | [] => [line]
  | word :: rest => setWords o n [] 0 (word :: rest)

/-- A row without those blanks at its end that make it longer than `n` characters. -/
def withoutExcess (n : Nat) (row : List Char) : List Char :=
  let blanks := row.length - (trimEnd row).length
  row.take (row.length - min blanks (row.length - n))

/-- Makes a row fit into `n` columns. -/
def fit (o : Overflow) (n : Nat) (row : List Char) : List Char :=
  if columns row ≤ n then row
  else
    match o with
    | .fold => cut n row
    | .ellipsis => cut (n - 1) row ++ ['…']

/-- The rows of a line. -/
def wrapLine (o : Overflow) (n : Nat) (line : List Char) : List (List Char) :=
  (breakLine o n (expandTabs line)).map fun row => fit o n (withoutExcess n row)

/-- The rows of a text of lines. -/
def wrap (o : Overflow) (n : Nat) (cs : List Char) : List (List Char) :=
  (rows cs).flatMap (wrapLine o n)

/-- The columns that a text asks for: those of its widest line, where tabulators take none. -/
def columnsAsked (cs : List Char) : Nat :=
  ((shownLines cs).map columns).foldl max 0

end SpecSkeleton.Text
