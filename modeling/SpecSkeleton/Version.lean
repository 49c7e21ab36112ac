import SpecSkeleton.File.Tree
import SpecSkeleton.Text.Blank
import SpecSkeleton.Text.Enclosed

/-!
# The version of a project

A project file declares its version at the start of a line, in quotes of either kind. The first such
line counts. Without one the version is 0.0.0.
-/

namespace SpecSkeleton

def versionKey : List Char :=
  ['v', 'e', 'r', 's', 'i', 'o', 'n']

/-- The version declared right here, between two quotes with something in between. -/
def versionHere? (cs : List Char) : Option String :=
  if versionKey.isPrefixOf cs then
    match Text.trimStart (cs.drop versionKey.length) with
    | '=' :: rest =>
      match Text.trimStart rest with
      | quote :: rest =>
        if Text.isQuote quote then (Text.betweenQuotes? rest).map String.ofList else none
      | [] => none
    | _ => none
  else none

/-- The first version declared at the start of a line. The flag says whether a line starts here. -/
def versionFrom? : Bool → List Char → Option String
  | _, [] => none
  | true, c :: cs => (versionHere? (c :: cs)).or (versionFrom? (c == '\n') cs)
  | false, c :: cs => versionFrom? (c == '\n') cs

def noVersion : String := "0.0.0"

/-- The version that a project file declares. -/
def projectVersion (s : Surroundings) (p : FilePath) : Except ReadFault String :=
  if s.exists? p then
    (s.readText p).map fun text => (versionFrom? true text.toList).getD noVersion
  else .ok noVersion

end SpecSkeleton
