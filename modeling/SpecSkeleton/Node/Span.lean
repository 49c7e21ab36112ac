import SpecSkeleton.Node

/-!
# Lines and the nodes that enclose them

A node covers the lines from its keyword up to its next sibling, the last child up to where its
parent ends. The search goes down from the roots and takes, among siblings, the first whose lines
include the one sought.
-/

namespace SpecSkeleton

/-- Whether a line lies before a bound; no bound holds every line. -/
def isBelow (line : Int) : Option Nat → Bool
  | none => true
  | some bound => line < bound

/-- Where a node ends that is followed by the given siblings, under a parent that ends at `stop`. -/
def endOf (stop : Option Nat) : List Node → Option Nat
  | [] => stop
  | next :: _ => some next.line

/-- The nodes that enclose a line among siblings whose parent ends at `stop`, outermost first. -/
def enclosingWithin (line : Int) (stop : Option Nat) : List Node → List Node
  | [] => []
  | ⟨kind, name, row, file, children⟩ :: rest =>
    let n : Node := ⟨kind, name, row, file, children⟩
    if n.line ≤ line ∧ isBelow line (endOf stop rest) then
      n :: enclosingWithin line (endOf stop rest) children
    else enclosingWithin line stop rest

def Forest.enclosing (roots : Forest) (line : Int) : List Node :=
  enclosingWithin line none roots

end SpecSkeleton
