import SpecSkeleton.File.Tree
import SpecSkeleton.Journal
import SpecSkeleton.Record
import SpecSkeleton.Value.Json

/-!
# The log of a parse

A parse reports the text it is given, each row with a keyword as it comes to it, and its outcome,
the forest as JSON text. A row whose keyword has no kind is reported too. A name that fails ends the
report at its row.
-/

namespace SpecSkeleton

def parserRecord (level : Level) (message : String) : LogRecord :=
  ⟨level, .parser, message⟩

/-- The keyword lines among numbered rows, up to the first whose name fails, that one included. -/
def keywordRows (rule : NameRule) : List (List Char × Nat) → List LogRecord
  | [] => []
  | (row, index) :: rest =>
    match KeywordLine.ofRow? row with
    | none => keywordRows rule rest
    | some line =>
      let record := parserRecord .debug
        s!"Found RSpec node at line {index + 1}: {String.ofList line.written}"
      match line.kind? with
      | none => record :: keywordRows rule rest
      | some kind =>
        match rule kind line.naming with
        | .error _ => [record]
        | .ok _ => record :: keywordRows rule rest

def parseJournal (rule : NameRule) (text file : String) : Journal :=
  let rows := Text.rows text.toList
  let start := [
    parserRecord .debug s!"Parsing file: {file} ({text.length} characters)",
    parserRecord .debug s!"Processing {rows.length} lines"]
  let outcome :=
    match parseForest rule text file with
    | .error message => [parserRecord .warning s!"Parsing failed for {file}: {message}"]
    | .ok roots => [
      parserRecord .debug s!"Parsed {roots.length} root nodes from {file}",
      parserRecord .debug ("Node tree:\n" ++ roots.record.json)]
  start ++ keywordRows rule rows.zipIdx ++ outcome

end SpecSkeleton
