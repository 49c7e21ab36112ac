import SpecSkeleton.Keyword.Line
import SpecSkeleton.Keyword.Name
import SpecSkeleton.Outline.Nesting
import SpecSkeleton.Text.Line

/-!
# From a spec text to its forest

Every row that is a keyword line with a kind becomes one node, numbered by its row and nested by
indentation; block ends are not looked at, so a half-written file has an outline too. The rule that
names elements is a parameter, and the only thing that can fail: the first row whose name fails
makes the whole parse fail with its text.
-/

namespace SpecSkeleton

/-- A rule that names the element opened by a keyword from the text after it. A failure has a text.
-/
abbrev NameRule := Kind → List Char → Except String String

def NameRule.standard : NameRule :=
  fun kind naming => .ok (declaredName kind naming)

inductive ParseResult where
  | ok (roots : Forest)
  | failed (message : String)
  deriving Repr

/-- A row that opens an element. -/
structure Opening where
  row : Nat
  kind : Kind
  indent : Nat
  naming : List Char
  deriving DecidableEq, Repr

def Opening.ofRow? (row : List Char) (index : Nat) : Option Opening := do
  let line ← KeywordLine.ofRow? row
  let kind ← line.kind?
  return ⟨index, kind, line.indent, line.naming⟩

/-- The rows of a text that open an element, in order. -/
def openings (text : String) : List Opening :=
  (Text.rows text.toList).zipIdx.filterMap fun (row, index) => Opening.ofRow? row index

/-- The node of one row, without children, and its indentation. -/
def Opening.node (rule : NameRule) (file : String) (o : Opening) : Except String (Nat × Node) :=
  (rule o.kind o.naming).map fun name => (o.indent, ⟨o.kind, name, o.row, file, []⟩)

def parseForest (rule : NameRule) (text file : String) : Except String Forest :=
  ((openings text).mapM (Opening.node rule file)).map Forest.ofIndented

/-- The message of a failure that comes without a text. -/
def unknownFailure : String := "Unknown parsing error"

/-- The outline of a text; `file` is written into every node and never opened. -/
def parse (rule : NameRule) (text file : String) : ParseResult :=
  match parseForest rule text file with
  | .ok roots => .ok roots
  | .error message => .failed (if message.isEmpty then unknownFailure else message)

end SpecSkeleton
