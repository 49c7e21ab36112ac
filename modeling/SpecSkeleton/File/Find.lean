import SpecSkeleton.File.Pattern
import SpecSkeleton.File.Tree

/-!
# Finding files by a pattern

A path pattern is a list of parts between slashes. Each part leads from the paths found so far to
more: a name pattern to the entries it accepts, a plain name to that entry, two stars to a directory
and all directories below it. All parts but the last lead to directories only.
-/

namespace SpecSkeleton

inductive PatternPart where
  | below
  | accepted (p : NamePattern)
  | named (name : String)
  /-- What a slash at the end leaves. -/
  | here
  deriving DecidableEq, Repr

abbrev PathPattern := List PatternPart

namespace PathPattern

def hasTwoStars : List Char → Bool
  | '*' :: '*' :: _ => true
  | _ :: cs => hasTwoStars cs
  | [] => false

def isWildcard (cs : List Char) : Bool :=
  cs.any fun c => c == '*' || c == '?' || c == '['

/-- A part of a pattern; two stars must be a part of their own. -/
def partOf? (cs : List Char) : Option PatternPart :=
  if cs = ['*', '*'] then some .below
  else if hasTwoStars cs then none
  else if isWildcard cs then some (.accepted (.ofChars cs))
  else some (.named (String.ofList cs))

/-- The pattern that a text writes. -/
def ofChars? (cs : List Char) : Option PathPattern := do
  let names := (Text.pieces '/' cs).filter fun p => p != [] && p != ['.']
  let parts ← names.mapM partOf?
  return parts ++ (if cs.getLast? = some '/' then [.here] else [])

end PathPattern

namespace FileTree

mutual

/-- A directory and all directories below it, for a tree that is at a path. -/
def directoriesAt (p : FilePath) : FileTree → List FilePath
  | file _ => []
  | directory entries => p :: directoriesIn p entries

def directoriesIn (p : FilePath) : List (String × FileTree) → List FilePath
  | [] => []
  | (name, t) :: rest => directoriesAt (p.child name) t ++ directoriesIn p rest

end

end FileTree

namespace Surroundings

def directoriesBelow (s : Surroundings) (p : FilePath) : List FilePath :=
  match s.find p with
  | .ok t => t.directoriesAt p
  | .error _ => []

def entriesOf (s : Surroundings) (p : FilePath) : List (String × FileTree) :=
  match s.find p with
  | .ok t => t.entries
  | .error _ => []

/-- The paths that a pattern leads to from a directory, or the fault of a plain name that is too
long to be looked for. -/
def select (s : Surroundings) : PathPattern → FilePath → Except FileFault (List FilePath)
  | [], p => .ok [p]
  | .here :: _, p => .ok [p]
  | .below :: rest, p =>
    ((s.directoriesBelow p).mapM (s.select rest)).map List.flatten
  | .accepted pattern :: rest, p =>
    let entries := (s.entriesOf p).filter fun (name, t) =>
      pattern.accepts name.toList && (rest.isEmpty || t.isDirectory)
    (entries.mapM fun entry => s.select rest (p.child entry.1)).map List.flatten
  | .named name :: rest, p =>
    let found := p.child name
    match s.find found with
    | .error .nameTooLong => .error ⟨found.toString, .nameTooLong⟩
    | .error _ => .ok []
    | .ok t => if rest.isEmpty || t.isDirectory then s.select rest found else .ok []

end Surroundings

end SpecSkeleton
