import SpecSkeleton.Node
import SpecSkeleton.Settings

/-!
# Outline items

What a sidebar shows for a node. Settings hide hooks and shared values; a hidden node hides all that
is nested in it. A skipped node says so in its icon, its context and its description.
-/

namespace SpecSkeleton

structure OutlineItem where
  label : String
  expanded : Bool
  tooltip : String
  icon : String
  context : String
  file : String
  row : Nat
  description : Option String
  deriving DecidableEq, Repr

/-- The icon of a kind, in the names of an icon font. -/
def Kind.icon : Kind → String
  | describe | xdescribe => "file-directory"
  | context | xcontext => "folder"
  | it | xit => "check"
  | before => "arrow-up"
  | after => "arrow-down"
  | letValue => "variable"
  | around | prependBefore | appendAfter => "symbol-misc"

namespace Node

def item (n : Node) : OutlineItem where
  label := n.name
  expanded := !n.children.isEmpty
  tooltip := s!"{n.kind.keyword} at line {n.line}"
  icon := if n.isSkipped then "debug-stackframe-unfocused" else n.kind.icon
  context := if n.isSkipped then n.kind.keyword ++ "_skipped" else n.kind.keyword
  file := n.file
  row := n.row
  description := if n.isSkipped then some "(skipped)" else none

def isVisible (s : Settings) (n : Node) : Bool :=
  (s.showHooks || !n.isHook) && (s.showLets || n.kind != .letValue)

def visibleChildren (s : Settings) (n : Node) : List Node :=
  n.children.filter (isVisible s)

end Node

namespace Forest

def visibleRoots (s : Settings) (roots : Forest) : List Node :=
  roots.filter (Node.isVisible s)

/-- The items of the visible nodes among siblings and below them, in display order, with their
depths. -/
def itemsAt (s : Settings) (depth : Nat) : List Node → List (Nat × OutlineItem)
  | [] => []
  | ⟨kind, name, row, file, children⟩ :: rest =>
    let n : Node := ⟨kind, name, row, file, children⟩
    if n.isVisible s then (depth, n.item) :: itemsAt s (depth + 1) children ++ itemsAt s depth rest
    else itemsAt s depth rest
termination_by nodes => sizeOf nodes
decreasing_by all_goals (simp only [List.cons.sizeOf_spec, Node.mk.sizeOf_spec]; omega)

def items (s : Settings) (roots : Forest) : List (Nat × OutlineItem) :=
  itemsAt s 0 roots

end Forest

end SpecSkeleton
