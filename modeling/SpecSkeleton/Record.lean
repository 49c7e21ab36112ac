import SpecSkeleton.Outline.Parse
import SpecSkeleton.Value

/-!
# Records of nodes and parse results

What other programs get to see: a node as a table of its kind, name, line, file, children and
whether it is skipped; a parse result as a table with a status.
-/

namespace SpecSkeleton

mutual

def Node.record : Node → Value
  | ⟨kind, name, row, file, children⟩ =>
    .table [
      ("kind", .text kind.keyword),
      ("name", .text name),
      ("line", .int (row + 1)),
      ("file_path", .text file),
      ("children", .list (recordsOf children)),
      ("is_skipped", .bool kind.isSkipped)]

def recordsOf : List Node → List Value
  | [] => []
  | n :: rest => n.record :: recordsOf rest

end

def Forest.record (roots : Forest) : Value :=
  .list (recordsOf roots)

def ParseResult.record : ParseResult → Value
  | ok roots => .table [("status", .text "ok"), ("nodes", roots.record)]
  | failed message => .table [("status", .text "error"), ("error", .text message)]

end SpecSkeleton
