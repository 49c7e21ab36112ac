import SpecSkeleton.Kind

/-!
# Nodes and forests

A node is one element of a spec with the elements nested in it. Its place is the number of rows
above its keyword, so that its line number is never less than one. A forest is the list of the
outermost nodes of a file, in source order.
-/

namespace SpecSkeleton

structure Node where
  kind : Kind
  name : String
  row : Nat
  file : String
  children : List Node
  deriving Repr

abbrev Forest := List Node

namespace Node

/-- The number of the keyword's line, counted from one. -/
def line (n : Node) : Nat :=
  n.row + 1

def isSkipped (n : Node) : Bool :=
  n.kind.isSkipped

def isHook (n : Node) : Bool :=
  n.kind.isHook

mutual

/-- The node and all nodes below it, in source order. -/
def subtree : Node → List Node
  | ⟨kind, name, row, file, children⟩ =>
    ⟨kind, name, row, file, children⟩ :: subtrees children

/-- All nodes of a forest, in source order. -/
def subtrees : List Node → List Node
  | [] => []
  | n :: rest => subtree n ++ subtrees rest

end

end Node

namespace Forest

def nodes (roots : Forest) : List Node :=
  Node.subtrees roots

def countOf (roots : Forest) (k : Kind) : Nat :=
  roots.nodes.countP (·.kind == k)

end Forest

end SpecSkeleton
