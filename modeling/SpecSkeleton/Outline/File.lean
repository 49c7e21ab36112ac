import SpecSkeleton.File.Tree
import SpecSkeleton.Outline.Log

/-!
# The outline of a file

A spec file is read and parsed under its path as written. A file that cannot be read, or is no
UTF-8, gives a failed result; only a path that can name no file at all is handed back as a fault.
-/

namespace SpecSkeleton

def isSpecPath (suffix path : String) : Bool :=
  suffix.toList.isSuffixOf path.toList

def parseFile (rule : NameRule) (s : Surroundings) (p : FilePath) : Except ReadFault ParseResult :=
  match s.readText p with
  | .ok text => .ok (parse rule text p.toString)
  | .error .nullInPath => .error .nullInPath
  | .error fault => .ok (.failed fault.message)

def parseFileJournal (rule : NameRule) (s : Surroundings) (p : FilePath) : Journal :=
  match s.readText p with
  | .ok text => parseJournal rule text p.toString
  | .error .nullInPath => []
  | .error fault => [parserRecord .warning s!"Failed to read {p}: {fault.message}"]

end SpecSkeleton
