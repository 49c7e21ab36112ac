import SpecSkeleton.Command.Reach

/-!
# The program

Takes from the machine the part of its file tree that a command line can look at, runs the command
line on that and prints the outcome. Nothing is decided here.
-/

namespace SpecSkeleton.Program

/-- The names in a directory. -/
def namesIn (path : String) : IO (List String) := do
  let here ← IO.currentDir
  return ((← (here / path).readDir).toList.map fun entry => entry.fileName)

/-- The tree at a path, as deep as `fuel` allows; what cannot be read is left out. -/
def treeAt (deep : Bool) : Nat → String → IO (Option FileTree)
  | 0, _ => return none
  | fuel + 1, path => do
    let here ← IO.currentDir
    if ← (here / path).isDir then
      if !deep then return some (.directory [])
      let mut entries := #[]
      for name in ← namesIn path do
        if let some t ← treeAt deep fuel (path ++ "/" ++ name) then
          entries := entries.push (name, t)
      return some (.directory entries.toList)
    else if ← (here / path).pathExists then
      return some (.file (← IO.FS.readBinFile path).data.toList)
    else return none

/-- The deepest nesting of directories that is looked at. -/
def depthLimit : Nat := 64

/-- Adds what the machine has at some paths to a tree. -/
def addPaths (deep : Bool) (tree : FileTree) (paths : List FilePath) : IO FileTree :=
  paths.eraseDups.foldlM (fun tree p => do
    try
      match ← treeAt deep depthLimit p.toString with
      | some found => return tree.put p.names found
      | none => return tree
    catch _ => return tree) tree

def hostFor (words : List String) : IO SettingsHost := do
  let directory := FilePath.ofString (← IO.currentDir).toString
  let override ← IO.getEnv "RSPEC_OUTLINE_LOG_LEVEL"
  let named := Command.namedPaths directory words
  let tree ← addPaths false (.directory []) (named ++ named.flatMap Command.settingsPaths)
  let host : SettingsHost := ⟨⟨tree, directory⟩, override, Toml.read⟩
  return { host with tree := ← addPaths true tree (Command.searchedPaths host words) }

/-- A table with its columns filled up to one width each. -/
def tableText (rows : List (List String)) : String :=
  let widths := rows.foldl (fun widths row =>
    (List.range (max widths.length row.length)).map fun i =>
      max (widths.getD i 0) ((row.getD i "").length)) []
  String.join (rows.map fun row =>
    let cells := (row.zip widths).map fun (cell, width) =>
      cell ++ String.ofList (List.replicate (width - cell.length) ' ')
    "  ".intercalate cells ++ "\n")

def outputText (directory : FilePath) : Command.Output → String
  | .text s => s
  | .table rows => tableText rows
  | .about before after =>
    String.join ((before ++ [s!"  Directory:     {directory}"] ++ after).map Command.Outcome.line)

def usageText : String :=
  "Usage: rspec-outline [--config PATH] [--log-level LEVEL] (show | scan | locate | lsp check) ..."

end SpecSkeleton.Program

open SpecSkeleton in
def main (words : List String) : IO UInt32 := do
  let host ← Program.hostFor words
  let outcome := Command.run .standard host words
  IO.print (Program.outputText host.directory outcome.output)
  IO.eprint outcome.errors
  match outcome.exit with
  | .code n => return n.toUInt32
  | .usage =>
    IO.eprintln Program.usageText
    return 2
  | .crash fault =>
    IO.eprintln fault.message
    return 1
