import SpecSkeleton.File.Path
import SpecSkeleton.Text.Line
import SpecSkeleton.Text.Quoted
import SpecSkeleton.Text.Utf8

/-!
# File trees

A file tree as it is found: files with their bytes and directories with their entries, no links. A
path is followed name by name from a directory; two dots lead to the directory above, and nothing
lies above the root. Reading a text takes its bytes as UTF-8 and turns every line end into a line
feed.
-/

namespace SpecSkeleton

inductive FileTree where
  | file (bytes : List UInt8)
  | directory (entries : List (String × FileTree))

inductive FileTrouble where
  | notFound
  | notADirectory
  | isADirectory
  | nameTooLong
  deriving DecidableEq, Repr

namespace FileTrouble

def number : FileTrouble → Nat
  | notFound => 2
  | notADirectory => 20
  | isADirectory => 21
  | nameTooLong => 36

def text : FileTrouble → String
  | notFound => "No such file or directory"
  | notADirectory => "Not a directory"
  | isADirectory => "Is a directory"
  | nameTooLong => "File name too long"

end FileTrouble

/-- Why the bytes at a path, written in this way, cannot be had. -/
structure FileFault where
  path : String
  trouble : FileTrouble
  deriving DecidableEq, Repr

def FileFault.message (f : FileFault) : String :=
  s!"[Errno {f.trouble.number}] {f.trouble.text}: {Text.quoted f.path}"

/-- Why a text cannot be read: its path holds a null character and so names nothing, it is not
there, or its bytes are no UTF-8. -/
inductive ReadFault where
  | nullInPath
  | file (fault : FileFault)
  | encoding (fault : Text.Utf8.Fault)
  deriving DecidableEq, Repr

def ReadFault.message : ReadFault → String
  | nullInPath => "embedded null byte"
  | file fault => fault.message
  | encoding fault => fault.message

/-- The longest name and the longest path, in bytes. -/
def longestName : Nat := 255

def longestPath : Nat := 4095

namespace FileTree

def entry? (t : FileTree) (name : String) : Option FileTree :=
  match t with
  | directory entries => entries.lookup name
  | file _ => none

def isDirectory : FileTree → Bool
  | directory _ => true
  | file _ => false

def isFile : FileTree → Bool
  | file _ => true
  | directory _ => false

/-- Sets the entry of a name, in its place if it is there and at the end if not. -/
def setEntry (name : String) (t : FileTree) :
    List (String × FileTree) → List (String × FileTree)
  | [] => [(name, t)]
  | (other, old) :: rest =>
    if other = name then (name, t) :: rest else (other, old) :: setEntry name t rest

def entries : FileTree → List (String × FileTree)
  | directory entries => entries
  | file _ => []

/-- Puts a tree at the end of a way, making the directories on it. An empty directory does not take
the place of one that is there. -/
def put (t : FileTree) : List String → FileTree → FileTree
  | [], new =>
    match t, new with
    | directory entries, directory [] => directory entries
    | _, new => new
  | name :: names, new =>
    directory (setEntry name (put ((t.entry? name).getD (directory [])) names new) t.entries)

/-- Follows names from the tree that heads the list; the directories above it come after it. -/
def follow : List FileTree → List String → Except FileTrouble FileTree
  | [], _ => .error .notFound
  | here :: _, [] => .ok here
  | here :: above, name :: names =>
    if !here.isDirectory then .error .notADirectory
    else if name = ".." then
      follow (match above with
        | [] => [here]
        | up :: rest => up :: rest) names
    else if longestName < name.utf8ByteSize then .error .nameTooLong
    else
      match here.entry? name with
      | none => .error .notFound
      | some next => follow (next :: here :: above) names

end FileTree

/-- What a run finds: the file tree from its root and the working directory. -/
structure Surroundings where
  tree : FileTree
  directory : FilePath

namespace Surroundings

def find (s : Surroundings) (p : FilePath) : Except FileTrouble FileTree :=
  if longestPath < p.toString.utf8ByteSize then .error .nameTooLong
  else FileTree.follow [s.tree] (s.directory.join p).names

def isFile (s : Surroundings) (p : FilePath) : Bool :=
  match s.find p with
  | .ok t => t.isFile
  | .error _ => false

def isDirectory (s : Surroundings) (p : FilePath) : Bool :=
  match s.find p with
  | .ok t => t.isDirectory
  | .error _ => false

def exists? (s : Surroundings) (p : FilePath) : Bool :=
  match s.find p with
  | .ok _ => true
  | .error _ => false

/-- Why a path cannot even be looked up: it is too long, or a name on it is. -/
def lookFault? (s : Surroundings) (p : FilePath) : Option ReadFault :=
  match s.find p with
  | .error .nameTooLong => some (.file ⟨p.toString, .nameTooLong⟩)
  | _ => none

def readText (s : Surroundings) (p : FilePath) : Except ReadFault String :=
  if p.hasNull then .error .nullInPath
  else
    match s.find p with
    | .error trouble => .error (.file ⟨p.toString, trouble⟩)
    | .ok (.directory _) => .error (.file ⟨p.toString, .isADirectory⟩)
    | .ok (.file bytes) =>
      match Text.Utf8.decode bytes with
      | .error fault => .error (.encoding fault)
      | .ok cs => .ok (String.ofList (Text.foldNewlines cs))

end Surroundings

end SpecSkeleton
