import SpecSkeleton.Node

/-!
# Index paths

A position in a forest is the list of indices that lead to it: `[0, 2]` is the third child of the
first root. `Forest.walk` lists every node with its path, parents before children. Look-up also
takes negative indices, which count from the end of the list they index.
-/

namespace SpecSkeleton

abbrev IndexPath := List Int

mutual

def Node.walkAt (path : IndexPath) : Node → List (IndexPath × Node)
  | ⟨kind, name, row, file, children⟩ =>
    (path, ⟨kind, name, row, file, children⟩) :: walkSiblings path 0 children

/-- The walk of siblings whose parent is at `parent`; the first of them is child number `index`. -/
def walkSiblings (parent : IndexPath) (index : Nat) : List Node → List (IndexPath × Node)
  | [] => []
  | n :: rest => n.walkAt (parent ++ [(index : Int)]) ++ walkSiblings parent (index + 1) rest

end

/-- The element at an index, a negative one counting from the end. -/
def signedGet? {α : Type} (xs : List α) (i : Int) : Option α :=
  let k := if i < 0 then i + xs.length else i
  if k < 0 then none else xs[k.toNat]?

inductive PathFault where
  | empty
  | outOfRange
  deriving DecidableEq, Repr

def PathFault.message : PathFault → String
  | empty => "empty node path"
  | outOfRange => "list index out of range"

namespace Forest

/-- Every node with its path, each path continuing `base`. -/
def walk (roots : Forest) (base : IndexPath) : List (IndexPath × Node) :=
  walkSiblings base 0 roots

/-- The nodes on the way to a position, outermost first. -/
def ancestors (roots : Forest) : IndexPath → Except PathFault (List Node)
  | [] => .ok []
  | i :: rest =>
    match signedGet? roots i with
    | none => .error .outOfRange
    | some n => (ancestors n.children rest).map (n :: ·)

def nodeAt (roots : Forest) : IndexPath → Except PathFault Node
  | [] => .error .empty
  | i :: rest =>
    match signedGet? roots i with
    | none => .error .outOfRange
    | some n => if rest.isEmpty then .ok n else nodeAt n.children rest

end Forest

end SpecSkeleton
