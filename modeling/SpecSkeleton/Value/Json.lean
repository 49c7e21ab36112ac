import SpecSkeleton.Number.Shortest
import SpecSkeleton.Text.Quoted
import SpecSkeleton.Value

/-!
# JSON text of a value

Two blanks of indentation to a level, each item on a line of its own, an empty list or table on the
line it starts on, and only plain characters: any other is written by its UTF-16 units. A date or a
time is written as its text.
-/

namespace SpecSkeleton

namespace Json

def unit (n : Nat) : List Char :=
  '\\' :: 'u' :: Text.hex 4 n

def escape (c : Char) : List Char :=
  if c = '"' ∨ c = '\\' then ['\\', c]
  else if c = '\n' then ['\\', 'n']
  else if c = '\r' then ['\\', 'r']
  else if c = '\t' then ['\\', 't']
  else if c = '\x08' then ['\\', 'b']
  else if c = '\x0c' then ['\\', 'f']
  else if ' ' ≤ c ∧ c ≤ '~' then [c]
  else if c.toNat < 0x10000 then unit c.toNat
  else
    let rest := c.toNat - 0x10000
    unit (0xD800 + rest / 0x400) ++ unit (0xDC00 + rest % 0x400)

def string (s : String) : String :=
  String.ofList ('"' :: s.toList.flatMap escape ++ ['"'])

def margin (depth : Nat) : String :=
  "\n" ++ String.ofList (List.replicate (2 * depth) ' ')

/-- Items between brackets, one to a line, at `depth` levels of indentation. -/
def block (opening closing : String) (depth : Nat) (items : List String) : String :=
  if items.isEmpty then opening ++ closing
  else
    opening ++ margin (depth + 1) ++ ("," ++ margin (depth + 1)).intercalate items ++
      margin depth ++ closing

def number : Binary64 → String
  | .nan => "NaN"
  | .infinite negative => if negative then "-Infinity" else "Infinity"
  | x => x.shown

mutual

def render (depth : Nat) : Value → String
  | .null => "null"
  | .bool b => if b then "true" else "false"
  | .int n => toString n
  | .float x => number x
  | .text s => string s
  | .date d => string d.shown
  | .time t => string t.shown
  | .moment d t none => string (d.shown ++ " " ++ t.shown)
  | .moment d t (some o) => string (d.shown ++ " " ++ t.shown ++ o.shown)
  | .list items => block "[" "]" depth (renderItems (depth + 1) items)
  | .table fields => block "\x7b" "\x7d" depth (renderFields (depth + 1) fields)

def renderItems (depth : Nat) : List Value → List String
  | [] => []
  | v :: rest => render depth v :: renderItems depth rest

def renderFields (depth : Nat) : List (String × Value) → List String
  | [] => []
  | (key, v) :: rest => (string key ++ ": " ++ render depth v) :: renderFields depth rest

end

end Json

def Value.json (v : Value) : String :=
  Json.render 0 v

end SpecSkeleton
