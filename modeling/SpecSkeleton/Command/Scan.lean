import SpecSkeleton.Command.Outcome

/-!
# A summary of all spec files

A row for each spec file of a project: how many groups and examples it has and how many nodes are
skipped, or why it has no outline.
-/

namespace SpecSkeleton.Command

inductive ScanStatus where
  | counted (groups examples skipped : Nat)
  | failed (message : String)
  deriving DecidableEq, Repr

structure ScanRow where
  file : FilePath
  status : ScanStatus
  deriving DecidableEq, Repr

def ScanStatus.ofResult : ParseResult → ScanStatus
  | .failed message => .failed message
  | .ok roots =>
    let count (p : Kind → Bool) := roots.nodes.countP fun n => p n.kind
    .counted (count Kind.isGroup) (count Kind.isExample) (count Kind.isSkipped)

def ScanStatus.isFailure : ScanStatus → Bool
  | counted .. => false
  | failed _ => true

/-- The row of a file. -/
def scanRow (rule : NameRule) (s : Surroundings) (file : FilePath) : Except ReadFault ScanRow :=
  (parseFile rule s file).map fun result => ⟨file, .ofResult result⟩

/-- The cells of a row as markup; files below the root go by their path from there. -/
def ScanRow.cells (root : FilePath) (r : ScanRow) : List String :=
  let name := Markup.escape ((r.file.relativeTo? root).getD r.file).toString
  match r.status with
  | .failed message => [name, "-", "-", "-", Markup.styled "red" (Markup.escape message)]
  | .counted groups examples skipped =>
    [name, toString groups, toString examples, toString skipped, Markup.styled "green" "ok"]

def scanHeader : List String :=
  ["File", "Groups", "Examples", "Skipped", "Status"]

/-- How many columns of the terminal each column of a table takes: as many as its widest cell asks
for. -/
def columnWidths (rows : List (List (List Char))) : List Nat :=
  rows.foldl (fun widths cells =>
    (List.range (max widths.length cells.length)).map fun i =>
      max (widths.getD i 0) (Text.columnsAsked (cells.getD i []))) []

/-- The lines of a row of cells: as many as its highest cell has, each cell trimmed. -/
def cellLines (widths : List Nat) (cells : List (List Char)) : List (List String) :=
  let columns := cells.zipWith (fun cell n => Text.wrap .ellipsis n cell) widths
  let height := columns.foldl (fun n column => max n column.length) 0
  (List.range height).map fun i =>
    columns.map fun column => String.ofList (Text.trim (column.getD i []))

def scanTable (root : FilePath) (rows : List ScanRow) :
    Except Markup.Fault (List (List String)) := do
  let shown ← rows.mapM fun r => (r.cells root).mapM Markup.content
  let widths := columnWidths (scanHeader.map String.toList :: shown)
  return scanHeader :: shown.flatMap (cellLines widths)

/-- The exit code tells whether a file failed. -/
def scanOutcome (root : FilePath) (rows : List ScanRow) : Outcome :=
  match scanTable root rows with
  | .error fault => .crash (.markup fault)
  | .ok table => ⟨.code (if rows.any (·.status.isFailure) then 1 else 0), .table table, "", []⟩

def noFilesOutcome (settings : Settings) : Outcome :=
  .showing <| Markup.styled "yellow" <|
    s!"No *{Markup.escape settings.specSuffix} files found under " ++
      ", ".intercalate settings.specDirs

def scan (rule : NameRule) (h : SettingsHost) (found : Except SettingsFault Settings)
    (root : FilePath) : Outcome :=
  withSettings found fun settings =>
    match h.specFiles settings root with
    | .error fault => .crash (.discovery fault)
    | .ok [] => noFilesOutcome settings
    | .ok files =>
      match files.mapM (scanRow rule h.toSurroundings) with
      | .error fault => .crash (.reading fault)
      | .ok rows =>
        (scanOutcome (root.resolve h.directory) rows).logging
          (files.flatMap (parseFileJournal rule h.toSurroundings))

end SpecSkeleton.Command
