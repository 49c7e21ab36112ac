import SpecSkeleton.File.Find
import SpecSkeleton.Outline.File
import SpecSkeleton.Settings

/-!
# Discovery of spec files

The spec files of a project are looked for in the directories that the settings name, each seen from
the root of the project. A name that leads to a file stands for it if it is a spec file. Below a
directory, everything counts that a star and the suffix of spec files lead to as a pattern. The
result has each path once, in the order of its names.
-/

namespace SpecSkeleton

inductive DiscoveryFault where
  | badPattern
  | path (fault : ReadFault)
  deriving DecidableEq, Repr

def DiscoveryFault.message : DiscoveryFault → String
  | badPattern => "Invalid pattern: '**' can only be an entire path component"
  | path fault => fault.message

/-- Each path once, in the order of names. -/
def sortedPaths (paths : List FilePath) : List FilePath :=
  paths.eraseDups.mergeSort fun p q => !q.sortKey.lex p.sortKey fun a b => a < b

/-- Everything below a directory that a suffix leads to. -/
def Surroundings.withSuffix (s : Surroundings) (suffix : String) (base : FilePath) :
    Except DiscoveryFault (List FilePath) :=
  match PathPattern.ofChars? ('*' :: suffix.toList) with
  | some pattern => (s.select (.below :: pattern) base).mapError fun fault => .path (.file fault)
  | none => .error .badPattern

/-- The spec files at or below a path. -/
def Surroundings.specFilesAt (s : Surroundings) (suffix : String) (base : FilePath) :
    Except DiscoveryFault (List FilePath) :=
  match s.find base with
  | .error .nameTooLong => .error (.path (.file ⟨base.toString, .nameTooLong⟩))
  | .error _ => .ok []
  | .ok (.file _) => .ok (if isSpecPath suffix base.toString then [base] else [])
  | .ok (.directory _) => s.withSuffix suffix base

def Surroundings.specFiles (s : Surroundings) (settings : Settings) (root : FilePath) :
    Except DiscoveryFault (List FilePath) := do
  let found ← settings.specDirs.mapM fun directory =>
    let path := root.join (.ofString directory)
    if path.hasNull then .error (.path .nullInPath)
    else s.specFilesAt settings.specSuffix (path.resolve s.directory)
  return sortedPaths found.flatten

end SpecSkeleton
