import SpecSkeleton.Record
import SpecSkeleton.Text.Numeral

/-!
# Checking records

An untyped value is taken for a node or a parse result if it has the fields of one. Fields with
other names are passed over, also one that says whether the node is skipped. The line may come as a
number or as a numeral. Every fault is reported, in the order of the fields and depth first, with
the way to it from the top.
-/

namespace SpecSkeleton

/-- One step into a value: to a field of a table or an item of a list. -/
inductive RecordStep where
  | field (name : String)
  | item (index : Nat)
  deriving DecidableEq, Repr

inductive RecordTrouble where
  | missing
  | noKind
  | noText
  | noList
  | noNode
  | noInteger
  | fractionalNumber
  | infiniteNumber
  | noNumeral
  | tooLarge
  | lessThanOne
  | noResult
  | statusMissing
  | statusUnknown
  deriving DecidableEq, Repr

/-- The word by which a trouble is known outside. -/
def RecordTrouble.code : RecordTrouble → String
  | missing => "missing"
  | noKind => "enum"
  | noText => "string_type"
  | noList => "list_type"
  | noNode => "model_type"
  | noInteger => "int_type"
  | fractionalNumber => "int_from_float"
  | infiniteNumber => "finite_number"
  | noNumeral => "int_parsing"
  | tooLarge => "int_parsing_size"
  | lessThanOne => "greater_than_equal"
  | noResult => "model_attributes_type"
  | statusMissing => "union_tag_not_found"
  | statusUnknown => "union_tag_invalid"

structure RecordFault where
  way : List RecordStep
  trouble : RecordTrouble
  deriving DecidableEq, Repr

/-- A checked value, or all the faults found. -/
abbrev Checked (α : Type) := Except (List RecordFault) α

namespace Checked

/-- Both parts if neither has a fault, else the faults of the first and then of the second. -/
def both {α β : Type} : Checked α → Checked β → Checked (α × β)
  | .ok a, .ok b => .ok (a, b)
  | .error f, .error g => .error (f ++ g)
  | .error f, .ok _ => .error f
  | .ok _, .error g => .error g

def fault {α : Type} (way : List RecordStep) (trouble : RecordTrouble) : Checked α :=
  .error [⟨way, trouble⟩]

end Checked

namespace Value

/-- The size that a number with a point has to stay below to be taken for a whole one. -/
def floatLimit : Nat := Nat.pow 2 63

def toInteger : Value → Except RecordTrouble Int
  | bool b => .ok (if b then 1 else 0)
  | int n => .ok n
  | float (.finite negative significand power) =>
    match (Binary64.finite negative significand power).toInt? with
    | some n => if n.natAbs < floatLimit then .ok n else .error .tooLarge
    | none => .error .fractionalNumber
  | float _ => .error .infiniteNumber
  | text s =>
    match Text.numeral s with
    | .ok n => .ok n
    | .error .malformed => .error .noNumeral
    | .error .tooLong => .error .tooLarge
  | _ => .error .noInteger

/-- The number of rows above a line that is given by its number. -/
def toRow (v : Value) : Except RecordTrouble Nat :=
  match v.toInteger with
  | .ok n => if n < 1 then .error .lessThanOne else .ok (n - 1).toNat
  | .error trouble => .error trouble

def toKind : Value → Except RecordTrouble Kind
  | text s =>
    match Kind.ofKeyword? s with
    | some kind => .ok kind
    | none => .error .noKind
  | _ => .error .noKind

def toText : Value → Except RecordTrouble String
  | text s => .ok s
  | _ => .error .noText

end Value

/-- A field that has to be there. -/
def Fields.required {α : Type} (fields : Fields) (way : List RecordStep) (key : String)
    (read : Value → Except RecordTrouble α) : Checked α :=
  let here := way ++ [.field key]
  match fields.get? key with
  | none => .fault here .missing
  | some v =>
    match read v with
    | .ok a => .ok a
    | .error trouble => .fault here trouble

mutual

def checkNode (way : List RecordStep) : Value → Checked Node
  | .table fields =>
    let kind := Fields.required fields way "kind" Value.toKind
    let name := Fields.required fields way "name" Value.toText
    let row := Fields.required fields way "line" Value.toRow
    let file := Fields.required fields way "file_path" Value.toText
    let children := checkChildren way fields
    (kind.both (name.both (row.both (file.both children)))).map
      fun (kind, name, row, file, children) => ⟨kind, name, row, file, children⟩
  | _ => .fault way .noNode

/-- The field of the children; without it there are none. -/
def checkChildren (way : List RecordStep) : List (String × Value) → Checked (List Node)
  | [] => .ok []
  | (key, v) :: rest =>
    if key = "children" then checkNodes (way ++ [.field "children"]) v else checkChildren way rest

def checkNodes (way : List RecordStep) : Value → Checked (List Node)
  | .list items => checkItems way 0 items
  | _ => .fault way .noList

def checkItems (way : List RecordStep) (index : Nat) : List Value → Checked (List Node)
  | [] => .ok []
  | v :: rest =>
    ((checkNode (way ++ [.item index]) v).both (checkItems way (index + 1) rest)).map
      fun (n, nodes) => n :: nodes

end

/-- The field of the roots; without it there are none. -/
def checkRoots (way : List RecordStep) (fields : Fields) : Checked Forest :=
  match fields.get? "nodes" with
  | none => .ok []
  | some v => checkNodes (way ++ [.field "nodes"]) v

def checkResult : Value → Checked ParseResult
  | .table fields =>
    match Fields.get? fields "status" with
    | none => .fault [] .statusMissing
    | some (.text "ok") => (checkRoots [.field "ok"] fields).map .ok
    | some (.text "error") =>
      (Fields.required fields [.field "error"] "error" Value.toText).map .failed
    | some _ => .fault [] .statusUnknown
  | _ => .fault [] .noResult

end SpecSkeleton
