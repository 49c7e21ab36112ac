import SpecSkeleton.Command.Run

/-!
# What a command line looks at

The places in the file tree that a command line can ask for, so that no more of the tree has to be
had than these: first the paths among its words and the settings files above them, and then, once
the settings are known, the directories that a summary goes through.
-/

namespace SpecSkeleton.Command

/-- The paths that a word may stand for: itself, or the value of an option. -/
def pathsOfWord (word : String) : List FilePath :=
  let value := (word.toList.dropWhile (· != '=')).drop 1
  [.ofString word, .ofString (String.ofList value), .ofString (String.ofList (word.toList.drop 2))]

/-- The paths among the words, and the directory that the run starts in. -/
def namedPaths (directory : FilePath) (words : List String) : List FilePath :=
  (FilePath.ofString "." :: words.flatMap pathsOfWord).map (·.resolve directory)

/-- The settings files that may stand in the directories above a path. -/
def settingsPaths (p : FilePath) : List FilePath :=
  p.selfAndParents.flatMap fun directory =>
    [directory.child SettingsHost.settingsName, directory.child SettingsHost.projectName]

/-- The directories that a summary goes through, for each root that the words may name. -/
def searchedPaths (h : SettingsHost) (words : List String) : List FilePath :=
  let files := words.flatMap pathsOfWord |>.filter h.isFile
  (FilePath.ofString "." :: words.flatMap pathsOfWord).flatMap fun root =>
    let found := h.search root :: files.map h.load
    found.flatMap fun
      | .error _ => []
      | .ok settings =>
        settings.specDirs.map fun directory =>
          (root.join (.ofString directory)).resolve h.directory

end SpecSkeleton.Command
