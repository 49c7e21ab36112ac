import SpecSkeleton.Proofs.Outline.Naming

/-!
# Nodes with their indentation

A scan leaves with each node how far its row is indented. Once the nodes are nested nothing looks at
this any more, so that an outline is a forest without it (`IndentedNode.plain`). It can be put back
where the indentation of every row is known (`Node.indentedBy`): `indentedBy_plain_iff` says for
which indented nodes this gives just what they were. `parseIndented` is what a parse leaves, and its
nodes are indented as the openings of the text are, one by one (`parseIndented_eq_ok_iff`).
-/

namespace SpecSkeleton

/-- A node that carries how far its row is indented, over nodes that do. -/
structure IndentedNode where
  indent : Nat
  kind : Kind
  name : String
  row : Nat
  file : String
  children : List IndentedNode
  deriving Repr

abbrev IndentedForest := List IndentedNode

mutual

/-- The node and all nodes below it, in source order. -/
def IndentedNode.subtree : IndentedNode → List IndentedNode
  | ⟨indent, kind, name, row, file, children⟩ =>
    ⟨indent, kind, name, row, file, children⟩ :: IndentedForest.nodes children

def IndentedForest.nodes : List IndentedNode → List IndentedNode
  | [] => []
  | n :: rest => n.subtree ++ IndentedForest.nodes rest

end

mutual

/-- The node alone: at no depth is the indentation kept. -/
def IndentedNode.plain : IndentedNode → Node
  | ⟨_, kind, name, row, file, children⟩ =>
    ⟨kind, name, row, file, IndentedForest.plain children⟩

def IndentedForest.plain : List IndentedNode → List Node
  | [] => []
  | n :: rest => n.plain :: IndentedForest.plain rest

end

mutual

/-- The node, where `ind` says how far each row is indented. -/
def Node.indentedBy (ind : Nat → Nat) : Node → IndentedNode
  | ⟨kind, name, row, file, children⟩ =>
    ⟨ind row, kind, name, row, file, Forest.indentedBy ind children⟩

def Forest.indentedBy (ind : Nat → Nat) : List Node → List IndentedNode
  | [] => []
  | n :: rest => n.indentedBy ind :: Forest.indentedBy ind rest

end

section
variable {ind : Nat → Nat}

mutual

@[simp]
theorem Node.plain_indentedBy : (n : Node) → (n.indentedBy ind).plain = n
  | ⟨kind, name, row, file, children⟩ => by
    rw [Node.indentedBy, IndentedNode.plain, Forest.plain_indentedBy children]

@[simp]
theorem Forest.plain_indentedBy : (f : List Node) →
    IndentedForest.plain (Forest.indentedBy ind f) = f
  | [] => rfl
  | n :: rest => by
    rw [Forest.indentedBy, IndentedForest.plain, Node.plain_indentedBy n,
      Forest.plain_indentedBy rest]

end

mutual

/-- Put back, the indentations are what they were just if they were those of the rows. -/
theorem IndentedNode.indentedBy_plain_iff : (n : IndentedNode) →
    (n.plain.indentedBy ind = n ↔ ∀ m ∈ n.subtree, m.indent = ind m.row)
  | ⟨indent, kind, name, row, file, children⟩ => by
    rw [IndentedNode.plain, Node.indentedBy, IndentedNode.subtree, List.forall_mem_cons,
      ← IndentedForest.indentedBy_plain_iff children, IndentedNode.mk.injEq, eq_comm]
    simp

theorem IndentedForest.indentedBy_plain_iff : (f : List IndentedNode) →
    (Forest.indentedBy ind (IndentedForest.plain f) = f ↔
      ∀ m ∈ IndentedForest.nodes f, m.indent = ind m.row)
  | [] => by simp [IndentedForest.plain, Forest.indentedBy, IndentedForest.nodes]
  | n :: rest => by
    rw [IndentedForest.plain, Forest.indentedBy, IndentedForest.nodes, List.cons.injEq,
      List.forall_mem_append, IndentedNode.indentedBy_plain_iff n,
      IndentedForest.indentedBy_plain_iff rest]

end

mutual

theorem IndentedNode.rows_plain : (n : IndentedNode) →
    n.plain.subtree.map Node.row = n.subtree.map IndentedNode.row
  | ⟨indent, kind, name, row, file, children⟩ => by
    rw [IndentedNode.plain, Node.subtree, IndentedNode.subtree, List.map_cons, List.map_cons,
      IndentedForest.rows_plain children]

theorem IndentedForest.rows_plain : (f : List IndentedNode) →
    (Node.subtrees (IndentedForest.plain f)).map Node.row =
      (IndentedForest.nodes f).map IndentedNode.row
  | [] => rfl
  | n :: rest => by
    rw [IndentedForest.plain, Node.subtrees, IndentedForest.nodes, List.map_append, List.map_append,
      IndentedNode.rows_plain n, IndentedForest.rows_plain rest]

end

end

/-! ## Parse results -/

/-- A parse result whose nodes carry their indentation. -/
inductive IndentedResult where
  | ok (roots : IndentedForest)
  | failed (message : String)
  deriving Repr

namespace IndentedResult

def nodes : IndentedResult → List IndentedNode
  | ok roots => IndentedForest.nodes roots
  | failed _ => []

def plain : IndentedResult → ParseResult
  | ok roots => .ok (IndentedForest.plain roots)
  | failed message => .failed message

end IndentedResult

def ParseResult.indentedBy (ind : Nat → Nat) : ParseResult → IndentedResult
  | ok roots => .ok (Forest.indentedBy ind roots)
  | failed message => .failed message

@[simp]
theorem ParseResult.plain_indentedBy (ind : Nat → Nat) (r : ParseResult) :
    (r.indentedBy ind).plain = r := by
  cases r with
  | ok roots => exact congrArg ParseResult.ok (Forest.plain_indentedBy roots)
  | failed message => rfl

theorem IndentedResult.indentedBy_plain_iff {ind : Nat → Nat} (r : IndentedResult) :
    r.plain.indentedBy ind = r ↔ ∀ m ∈ r.nodes, m.indent = ind m.row := by
  cases r with
  | ok roots =>
    rw [plain, ParseResult.indentedBy, IndentedResult.ok.injEq, nodes]
    exact IndentedForest.indentedBy_plain_iff roots
  | failed message => simp [plain, ParseResult.indentedBy, nodes]

/-- What parsing a text leaves, each node with the indentation of its row. -/
def parseIndented (rule : NameRule) (text file : String) : IndentedResult :=
  (parse rule text file).indentedBy (rowIndent text)

@[simp]
theorem plain_parseIndented (rule : NameRule) (text file : String) :
    (parseIndented rule text file).plain = parse rule text file :=
  ParseResult.plain_indentedBy _ _

section
variable {rule : NameRule} {text file : String}

/-- The nodes of a parse have the rows of the openings. -/
theorem rows_of_parse {roots : Forest} (h : parse rule text file = .ok roots) :
    roots.nodes.map Node.row = (openings text).map Opening.row := by
  obtain ⟨hshape, -⟩ := parseForest_eq_ok_iff.mp (parse_eq_ok_iff.mp h)
  obtain ⟨-, hentries⟩ := unnamed_eq_shapeOf_iff.mp hshape
  have hrows := congrArg (List.map (·.2.row)) hentries
  simpa [Forest.entries, blankName, Opening.named, Function.comp_def] using hrows

/-- The nodes of a parse are indented as the openings are, one by one. -/
theorem parseIndented_eq_ok_iff {roots : IndentedForest} :
    parseIndented rule text file = .ok roots ↔
      parse rule text file = .ok (IndentedForest.plain roots) ∧
        (IndentedForest.nodes roots).map IndentedNode.indent =
          (openings text).map Opening.indent := by
  -- The indentations of nodes and openings are compared as those of the rows that both have.
  have hind : (openings text).map Opening.indent =
      ((openings text).map Opening.row).map (rowIndent text) := by
    rw [List.map_map]
    exact List.map_congr_left fun o ho => indent_of_mem_openings ho
  have hcarry : parse rule text file = .ok (IndentedForest.plain roots) →
      ((IndentedForest.nodes roots).map IndentedNode.indent =
          (openings text).map Opening.indent ↔
        Forest.indentedBy (rowIndent text) (IndentedForest.plain roots) = roots) := by
    intro hparse
    rw [hind, ← rows_of_parse hparse, Forest.nodes, IndentedForest.rows_plain, List.map_map,
      List.map_inj_left, IndentedForest.indentedBy_plain_iff]
    rfl
  constructor
  · intro h
    have hparse : parse rule text file = .ok (IndentedForest.plain roots) := by
      rw [← plain_parseIndented, h]
      rfl
    refine ⟨hparse, (hcarry hparse).mpr ?_⟩
    rw [parseIndented, hparse] at h
    exact IndentedResult.ok.inj h
  · rintro ⟨hparse, hindents⟩
    rw [parseIndented, hparse]
    exact congrArg IndentedResult.ok ((hcarry hparse).mp hindents)

end

end SpecSkeleton
