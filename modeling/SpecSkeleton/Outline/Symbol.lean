import SpecSkeleton.Outline.Item

/-!
# Document symbols

The visible forest as an editor's symbol panel takes it: nested symbols with a kind number, each
spanning as many characters of its line as its name has. A symbol must have a name, so a node
without one goes by its keyword, and its range must be one that the editor protocol can write.
-/

namespace SpecSkeleton

structure DocumentSymbol where
  name : String
  detail : String
  kind : Nat
  row : Nat
  /-- The character of the row at which the range ends; it starts at the first. -/
  stop : Nat
  children : List DocumentSymbol
  deriving Repr

/-- The number of a kind in the editor protocol. -/
def Kind.symbolNumber : Kind → Nat
  | describe | xdescribe => 2
  | context | xcontext => 3
  | it | xit => 6
  | before | after => 12
  | letValue => 13
  | around | prependBefore | appendAfter => 19

def Forest.symbols (s : Settings) : List Node → List DocumentSymbol
  | [] => []
  | ⟨kind, name, row, file, children⟩ :: rest =>
    if Node.isVisible s ⟨kind, name, row, file, children⟩ then
      { name := if name.isEmpty then kind.keyword else name
        detail := kind.keyword
        kind := kind.symbolNumber
        row := row
        stop := name.length
        children := Forest.symbols s children } :: Forest.symbols s rest
    else Forest.symbols s rest
termination_by nodes => sizeOf nodes
decreasing_by all_goals (simp only [List.cons.sizeOf_spec, Node.mk.sizeOf_spec]; omega)

/-- The last number of a row or of a character that the editor protocol can write. -/
def lastPosition : Nat := Nat.pow 2 31 - 1

/-- A row that the editor protocol cannot write. -/
inductive RowFault where
  | tooFar (row : Nat)
  | tooLong (length : Nat)
  deriving DecidableEq, Repr

namespace RowFault

def part : RowFault → String
  | tooFar _ => "line"
  | tooLong _ => "character"

def position : RowFault → Nat
  | tooFar row => row
  | tooLong length => length

def message (f : RowFault) : String :=
  s!"Position.{f.part} should be in range [0:{lastPosition}], but was {f.position}."

end RowFault

/-- What keeps the range of a node's symbol from being written: its row, or else the character at
which it ends. -/
def Node.rowFault? (n : Node) : Option RowFault :=
  if lastPosition < n.row then some (.tooFar n.row)
  else if lastPosition < n.name.length then some (.tooLong n.name.length)
  else none

/-- The fault of the first visible node, in display order, whose range cannot be written. -/
def Forest.rowFault? (s : Settings) : List Node → Option RowFault
  | [] => none
  | ⟨kind, name, row, file, children⟩ :: rest =>
    let n : Node := ⟨kind, name, row, file, children⟩
    if n.isVisible s then
      n.rowFault?.or ((Forest.rowFault? s children).or (Forest.rowFault? s rest))
    else Forest.rowFault? s rest
termination_by nodes => sizeOf nodes
decreasing_by all_goals (simp only [List.cons.sizeOf_spec, Node.mk.sizeOf_spec]; omega)

/-- The symbols of a forest if all their ranges can be written. -/
def Forest.writtenSymbols (s : Settings) (roots : Forest) : Except RowFault (List DocumentSymbol) :=
  match Forest.rowFault? s roots with
  | some fault => .error fault
  | none => .ok (Forest.symbols s roots)

end SpecSkeleton
