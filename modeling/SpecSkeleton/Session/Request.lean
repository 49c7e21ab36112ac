import SpecSkeleton.Outline.State
import SpecSkeleton.Outline.Symbol
import SpecSkeleton.Record
import SpecSkeleton.Uri.Basic
import SpecSkeleton.Value.Shown

/-!
# Requests of an editor

What an editor asks of a session, what it gets back, and what it is sent meanwhile.
-/

namespace SpecSkeleton

inductive EditorRequest where
  | enter (root : Option String)
  | opened (uri text : String)
  | changed (uri text : String)
  | closed (uri : String)
  | symbols (uri : String)
  /-- Reads a document again, by default the one that the outline shows. -/
  | refresh (arguments : List Value)
  | outline (arguments : List Value)
  deriving Repr

inductive EditorMessage where
  | error (text : String)
  | outlineChanged (s : OutlineState)
  deriving Repr

/-- What an editor is sent when the outline moves to a state: its error first, if it has one. -/
def OutlineState.messages (s : OutlineState) : List EditorMessage :=
  match s.error with
  | some text => if text.isEmpty then [.outlineChanged s] else [.error text, .outlineChanged s]
  | none => [.outlineChanged s]

def OutlineState.record (s : OutlineState) : Value :=
  let text? : Option String → Value := fun t => (t.map .text).getD .null
  .table [("file", text? s.file), ("error", text? s.error), ("nodes", s.roots.record)]

/-- The URI that the arguments of a command give. The arguments may come as one list; the first of
them is the URI, or a table that has it. -/
def uriOfArguments (arguments : List Value) : Value :=
  let arguments :=
    match arguments with
    | [.list inner] => inner
    | _ => arguments
  match arguments with
  | [] => .null
  | .table fields :: _ => (Fields.get? fields "uri").getD .null
  | first :: _ => if first.isGiven then .text first.shown else .null

/-- Why a value that is no text cannot be taken for a URI. Looking it up starts with a search for
percent signs in it, splits it there if there are any, and takes it as it is if there are none. -/
inductive NoUri where
  | notSearchable (type : String)
  | notMatchable (type : String)
  | notDivisible (type : String)
  deriving DecidableEq, Repr

def NoUri.message : NoUri → String
  | notSearchable type => s!"argument of type '{type}' is not iterable"
  | notMatchable type => s!"expected string or bytes-like object, got '{type}'"
  | notDivisible type => s!"'{type}' object has no attribute 'split'"

/-- The fault of a compound value, by whether a percent sign is one of its items or keys. -/
def NoUri.ofCompound (type : String) (hasPercent : Bool) : NoUri :=
  if hasPercent then .notMatchable type else .notDivisible type

/-- The URI that a value is. -/
def Value.toUri : Value → Except NoUri String
  | .text s => .ok s
  | .list items =>
    .error (.ofCompound "list" (items.any fun | .text s => s == "%" | _ => false))
  | .table fields => .error (.ofCompound "dict" (fields.any fun (key, _) => key == "%"))
  | v => .error (.notSearchable v.typeName)

end SpecSkeleton
