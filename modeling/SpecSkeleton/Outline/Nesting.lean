import SpecSkeleton.Node

/-!
# Nesting by indentation

Nodes arrive in source order, each with its indentation. The parent of a node is the nearest one
before it that is indented less. While nodes arrive, those that can still get children form a spine:
the last root, its last child, and so on down to the last node. A new node closes those spine nodes
that are indented as much as itself or more.
-/

namespace SpecSkeleton

/-- A node of the spine, without its children, and the closed siblings before it. -/
structure SpineNode where
  indent : Nat
  leaf : Node
  older : List Node
  deriving Repr

/-- The spine, innermost node first, and the closed children of its innermost node. -/
structure Nesting where
  spine : List SpineNode
  closed : List Node
  deriving Repr

namespace Nesting

def empty : Nesting := ⟨[], []⟩

def closeNode (s : SpineNode) (children : List Node) : List Node :=
  s.older ++ [{ s.leaf with children }]

/-- Closes the spine nodes that are indented `indent` or more. -/
def closeFrom (indent : Nat) : List SpineNode → List Node → Nesting
  | [], closed => ⟨[], closed⟩
  | s :: spine, closed =>
    if indent ≤ s.indent then closeFrom indent spine (closeNode s closed) else ⟨s :: spine, closed⟩

def add (t : Nesting) (indent : Nat) (leaf : Node) : Nesting :=
  let rest := closeFrom indent t.spine t.closed
  ⟨⟨indent, leaf, rest.closed⟩ :: rest.spine, []⟩

/-- The forest of all nodes so far. -/
def forest (t : Nesting) : Forest :=
  t.spine.foldl (fun closed s => closeNode s closed) t.closed

end Nesting

/-- The forest of nodes that carry their indentation, in source order. -/
def Forest.ofIndented (nodes : List (Nat × Node)) : Forest :=
  (nodes.foldl (fun t (indent, leaf) => t.add indent leaf) Nesting.empty).forest

end SpecSkeleton
