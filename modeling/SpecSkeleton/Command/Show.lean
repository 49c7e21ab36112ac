import SpecSkeleton.Command.Outcome
import SpecSkeleton.Outline.Item
import SpecSkeleton.Value.Json

/-!
# The outline of one file

The visible nodes of a file as a tree, a line to a node, or the whole result as JSON text.
-/

namespace SpecSkeleton.Command

/-- What a run is to show; a switch that is not given is as the settings have it. -/
structure ShowRequest where
  path : FilePath
  asJson : Bool
  hooks : Option Bool
  shared : Option Bool
  deriving DecidableEq, Repr

def ShowRequest.settings (r : ShowRequest) (s : Settings) : Settings :=
  { s with showHooks := r.hooks.getD s.showHooks, showLets := r.shared.getD s.showLets }

/-- The label of a node, as markup. -/
def nodeLabel (n : Node) : String :=
  Markup.styled "bold" n.kind.keyword ++ " " ++ Markup.escape n.name ++ " " ++
    Markup.styled "dim" s!":{n.line}" ++
    (if n.isSkipped then " " ++ Markup.styled "yellow" "(skipped)" else "")

/-- The rows of a label after the guides beside them: `first` beside the first row, `stem` beside
the others. -/
def labelRows (first stem : String) (label : String) : Except Markup.Fault (List String) := do
  match ← Markup.terminalRows (Markup.terminalColumns - stem.length) label with
  | [] => return [first]
  | row :: rows => return (first ++ row) :: rows.map (stem ++ ·)

/-- The lines of visible siblings and of what is below them; `stem` runs down beside them. -/
def branchLines (s : Settings) (stem : String) : List Node → Except Markup.Fault (List String)
  | [] => .ok []
  | ⟨kind, name, row, file, children⟩ :: rest => do
    let n : Node := ⟨kind, name, row, file, children⟩
    if n.isVisible s then
      let last := !rest.any (Node.isVisible s)
      let inner := stem ++ if last then "    " else "│   "
      let label ← labelRows (stem ++ if last then "└── " else "├── ") inner (nodeLabel n)
      let below ← branchLines s inner children
      let others ← branchLines s stem rest
      return label ++ (below ++ others)
    else branchLines s stem rest
termination_by nodes => sizeOf nodes
decreasing_by all_goals (simp only [List.cons.sizeOf_spec, Node.mk.sizeOf_spec]; omega)

def treeText (s : Settings) (p : FilePath) (roots : Forest) : Except Markup.Fault String := do
  let top ← labelRows "" "" (Markup.styled "cyan" (Markup.escape p.toString))
  return String.join ((top ++ (← branchLines s "" roots)).map Outcome.line)

def shownOutcome (r : ShowRequest) (s : Settings) (result : ParseResult) : Outcome :=
  if r.asJson then
    let code := match result with
      | .ok _ => 0
      | .failed _ => 1
    ⟨.code code, .text (Outcome.line result.record.json), "", []⟩
  else
    match result with
    | .failed message => .failing s!"Failed to parse RSpec file: {message}"
    | .ok [] =>
      .showing (Markup.styled "yellow" s!"No RSpec nodes found in {Markup.escape r.path.toString}")
    | .ok roots =>
      match treeText s r.path roots with
      | .ok text => .printing text
      | .error fault => .crash (.markup fault)

def showOutline (rule : NameRule) (h : SettingsHost) (found : Except SettingsFault Settings)
    (r : ShowRequest) : Outcome :=
  withSettings found fun settings =>
    requiringSpecFile settings r.path <|
      match parseFile rule h.toSurroundings r.path with
      | .error fault => .crash (.reading fault)
      | .ok result =>
        (shownOutcome r (r.settings settings) result).logging
          (parseFileJournal rule h.toSurroundings r.path)

end SpecSkeleton.Command
