/-!
# Lines of a text

Three notions of a line meet in this library. `rows` cuts a text at line feeds and nowhere else, and
is the one that line numbers count. `shownLines` cuts at every character a terminal breaks a line
at. `foldNewlines` is what reading a file does to its line ends: each becomes one line feed.
-/

namespace SpecSkeleton.Text

/-- Puts a character in front of the first piece; the separator opens a piece of its own. -/
def pushPiece (sep c : Char) (pieces : List (List Char)) : List (List Char) :=
  if c = sep then [] :: pieces
  else
    match pieces with
    | [] => [[c]]
    | p :: ps => (c :: p) :: ps

/-- The pieces of a text between separators; there is one more of them than separators. -/
def pieces (sep : Char) (cs : List Char) : List (List Char) :=
  cs.foldr (pushPiece sep) [[]]

@[simp]
theorem pieces_nil (sep : Char) : pieces sep [] = [[]] := rfl

theorem pieces_cons (sep c : Char) (cs : List Char) :
    pieces sep (c :: cs) = pushPiece sep c (pieces sep cs) := rfl

theorem pieces_ne_nil (sep : Char) : ∀ cs : List Char, pieces sep cs ≠ []
  | [] => by simp
  | c :: cs => by
    rw [pieces_cons]
    unfold pushPiece
    split
    · simp
    · split <;> simp

/-- The pieces of a text between its line feeds. -/
def rows (cs : List Char) : List (List Char) :=
  pieces '\n' cs

/-- Line feed, carriage return, vertical tab, form feed, the three separators of files, groups and
records, next line, and the line and paragraph separators. -/
def isLineBreak (c : Char) : Bool :=
  [0xA, 0xB, 0xC, 0xD, 0x1C, 0x1D, 0x1E, 0x85, 0x2028, 0x2029].contains c.toNat

/-- The lines a terminal would show: a carriage return and the line feed after it are one break, and
a break at the end opens no further line. -/
def shownLines : List Char → List (List Char)
  | [] => []
  | '\r' :: '\n' :: cs => [] :: shownLines cs
  | c :: cs =>
    if isLineBreak c then [] :: shownLines cs
    else
      match shownLines cs with
      | [] => [[c]]
      | l :: ls => (c :: l) :: ls

/-- A carriage return, alone or with the line feed after it, becomes a line feed. -/
def foldNewlines : List Char → List Char
  | [] => []
  | '\r' :: '\n' :: cs => '\n' :: foldNewlines cs
  | c :: cs => (if c = '\r' then '\n' else c) :: foldNewlines cs

end SpecSkeleton.Text
