import SpecSkeleton.Command.Outcome
import SpecSkeleton.Node.Span

/-!
# What encloses a line

The names of the nodes that enclose a line of a file, outermost first, and where the innermost of
them stands.
-/

namespace SpecSkeleton.Command

/-- Drops the sequences that colour a terminal: an escape character and a bracket, numbers, and a
letter. -/
def withoutColours : List Char → List Char
  | [] => []
  | c :: cs =>
    if c = '\x1b' ∧ cs.head? = some '[' then
      let isNumeric (d : Char) := d == ';' || d == '?' || d.isDigit
      let numbers := (cs.drop 1).takeWhile isNumeric
      match (cs.drop (1 + numbers.length)).head? with
      | some letter =>
        if letter.isAlpha then withoutColours (cs.drop (2 + numbers.length))
        else c :: withoutColours cs
      | none => c :: withoutColours cs
    else c :: withoutColours cs
termination_by cs => cs.length

def uncoloured (s : String) : String :=
  String.ofList (withoutColours s.toList)

/-- The nodes of a forest that enclose a line, by their names. -/
def locatedIn (p : FilePath) (line : Nat) (roots : Forest) : Outcome :=
  let chain := roots.enclosing line
  match chain.getLast? with
  | none => .failing (Diagnostic.aboutSpec "no RSpec node encloses this line" p (some line)).text
  | some innermost =>
    .printing <| uncoloured <|
      Outcome.line (" > ".intercalate (chain.map Node.name)) ++
        Outcome.line s!"{p}:{innermost.line}"

def locatedInText (rule : NameRule) (p : FilePath) (line : Nat) (text : String) : Outcome :=
  let count := (Text.rows text.toList).length
  if count < line then
    .failing (Diagnostic.aboutSpec s!"line {line} is outside the file ({count} lines)" p none).text
  else
    let outcome : Outcome := match parse rule text p.toString with
      | .failed message => .failing s!"Failed to parse RSpec file: {message}"
      | .ok roots => locatedIn p line roots
    outcome.logging (parseJournal rule text p.toString)

def locate (rule : NameRule) (h : SettingsHost) (found : Except SettingsFault Settings)
    (p : FilePath) (line : Nat) : Outcome :=
  withSettings found fun settings =>
    requiringSpecFile settings p <|
      match h.readText p with
      | .ok text => locatedInText rule p line text
      | .error .nullInPath => .crash (.reading .nullInPath)
      | .error fault =>
        .failing (Diagnostic.aboutSpec s!"cannot read file: {fault.message}" p none).text

end SpecSkeleton.Command
