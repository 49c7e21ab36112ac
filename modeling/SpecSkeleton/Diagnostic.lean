import SpecSkeleton.File.Path
import SpecSkeleton.Text.Line

/-!
# Diagnostics

A message about a file, with the place it speaks of if there is one. The place may carry an excerpt
that ends at its line; the excerpt is shown with line numbers and a caret row below its line.
-/

namespace SpecSkeleton

/-- A line and column of a file, both counted from one, and an excerpt around it. -/
structure Location where
  file : FilePath
  line : Int
  column : Int
  excerpt : Option String
  deriving DecidableEq, Repr

/-- A number filled up with blanks on its left to four characters. -/
def rowNumber (n : Int) : String :=
  let digits := toString n
  String.ofList (List.replicate (4 - digits.length) ' ') ++ digits

namespace Location

def firstRow (l : Location) : Int :=
  max 1 (l.line - 2)

/-- One row of an excerpt, and the caret row if it is the row of the location. -/
def shownRow (l : Location) (number : Int) (row : List Char) : List String :=
  let label := rowNumber number ++ " | "
  let caret := List.replicate (label.length + l.column - 1).toNat ' '
  (label ++ String.ofList row) ::
    (if number = l.line then [String.ofList caret ++ "^^^"] else [])

/-- The rows of the excerpt, numbered so that it ends at the location if it is long enough. -/
def shownExcerpt (l : Location) : String :=
  match l.excerpt with
  | none => ""
  | some excerpt =>
    if excerpt.isEmpty then ""
    else
      "\n".intercalate <| (Text.rows excerpt.toList).zipIdx.flatMap fun (row, index) =>
        l.shownRow (l.firstRow + index) row

def shown (l : Location) : String :=
  let place := s!"{l.file}:{l.line}:{l.column}"
  if l.excerpt.getD "" = "" then place else place ++ "\n" ++ l.shownExcerpt

end Location

structure Diagnostic where
  message : String
  location : Option Location
  deriving DecidableEq, Repr

namespace Diagnostic

def plain (message : String) : Diagnostic :=
  ⟨message, none⟩

/-- A diagnostic at a place, if both a file and a line other than zero are known. A column that is
missing or zero stands for the first. -/
def about (message : String) (file : Option FilePath) (line column : Option Int)
    (excerpt : Option String) : Diagnostic :=
  match file, line with
  | some file, some line =>
    if line = 0 then plain message
    else
      let column := column.getD 0
      ⟨message, some ⟨file, line, if column = 0 then 1 else column, excerpt⟩⟩
  | _, _ => plain message

/-- A diagnostic about a spec file, or about a line of it if that is known and not zero. -/
def aboutSpec (message : String) (file : FilePath) (line : Option Int) : Diagnostic :=
  match line.getD 0 with
  | 0 => plain s!"{file}: {message}"
  | line => ⟨message, some ⟨file, line, 1, none⟩⟩

def text (d : Diagnostic) : String :=
  match d.location with
  | none => d.message
  | some l => l.shown ++ "\n" ++ d.message

end Diagnostic

/-- A position in a list of `length` elements; a negative one counts from the end. -/
def clampIndex (length : Nat) (i : Int) : Nat :=
  if i < 0 then (length + i).toNat else min i.toNat length

/-- Up to three lines of a text that end at a given one, as a terminal shows lines. -/
def excerptEndingAt (text : String) (line : Int) : String :=
  let lines := Text.shownLines text.toList
  let stop := clampIndex lines.length line
  let start := (line - 3).toNat
  "\n".intercalate (((lines.take stop).drop start).map String.ofList)

end SpecSkeleton
