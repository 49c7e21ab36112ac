import SpecSkeleton.Text.Line

/-!
# File paths

A path is a root and the names below it. It is written without empty names and without single dots;
a name of two dots stays, because only the file tree can tell where it leads. Two leading slashes
are a root of their own, three or more are one slash. The path without root and names is a dot.
-/

namespace SpecSkeleton

inductive PathRoot where
  | relative
  | slash
  | doubleSlash
  deriving DecidableEq, Repr

def PathRoot.text : PathRoot → String
  | relative => ""
  | slash => "/"
  | doubleSlash => "//"

structure FilePath where
  root : PathRoot
  names : List String
  deriving DecidableEq, Repr

namespace FilePath

def ofString (s : String) : FilePath :=
  let cs := s.toList
  let root : PathRoot :=
    match cs with
    | '/' :: '/' :: '/' :: _ => .slash
    | '/' :: '/' :: _ => .doubleSlash
    | '/' :: _ => .slash
    | _ => .relative
  let names := ((Text.pieces '/' cs).filter fun p => p != [] && p != ['.']).map String.ofList
  ⟨root, names⟩

def toString (p : FilePath) : String :=
  if p.root = .relative ∧ p.names = [] then "." else p.root.text ++ "/".intercalate p.names

instance : ToString FilePath := ⟨toString⟩

def isAbsolute (p : FilePath) : Bool :=
  p.root != .relative

/-- A null character ends a name early, so a path that holds one names nothing. -/
def hasNull (p : FilePath) : Bool :=
  p.names.any (·.contains '\x00')

/-- The path one name shorter; a root is its own parent. -/
def parent (p : FilePath) : FilePath :=
  { p with names := p.names.dropLast }

/-- The path itself and its parents up to the root. -/
def selfAndParents (p : FilePath) : List FilePath :=
  (List.range (p.names.length + 1)).map fun n =>
    { p with names := p.names.take (p.names.length - n) }

/-- A path below another; an absolute one stands for itself. -/
def join (p q : FilePath) : FilePath :=
  if q.isAbsolute then q else { p with names := p.names ++ q.names }

def child (p : FilePath) (name : String) : FilePath :=
  { p with names := p.names ++ [name] }

/-- Removes each name of two dots with the name before it; at the root there is none. -/
def cancelDots (names : List String) : List String :=
  (names.foldl (fun kept name => if name = ".." then kept.drop 1 else name :: kept) []).reverse

/-- The absolute path without dots that a path stands for, seen from a directory. -/
def resolve (p directory : FilePath) : FilePath :=
  ⟨.slash, cancelDots (directory.join p).names⟩

/-- The rest of a path below a directory. -/
def relativeTo? (p directory : FilePath) : Option FilePath :=
  if p.root = directory.root ∧ directory.names.isPrefixOf p.names then
    some ⟨.relative, p.names.drop directory.names.length⟩
  else none

/-- The root, if there is one, and the names, which order paths. -/
def sortKey (p : FilePath) : List String :=
  if p.root = .relative then p.names else p.root.text :: p.names

end FilePath

end SpecSkeleton
