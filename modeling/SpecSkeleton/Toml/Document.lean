import SpecSkeleton.Toml.Number

/-!
# TOML documents

A document is read statement by statement into one table. A table may be opened once, a key be set
once; what an inline value or a dotted key has built cannot be opened or extended later, while each
element of an array of tables starts afresh.
-/

namespace SpecSkeleton.Toml

/-- Reads the text of a settings file into its top table. -/
abbrev Reader := String → Except Refusal Fields

abbrev Key := List String

/-- Changes the table that a key leads to, making the tables on its way. An array on the way stands
for its last element if `entersLists`. -/
def updateAt (entersLists : Bool) (change : Fields → Option Fields) :
    Key → Fields → Option Fields
  | [], table => change table
  | k :: key, table => do
    match table.get? k with
    | none => return table.set k (.table (← updateAt entersLists change key []))
    | some (.table inner) => return table.set k (.table (← updateAt entersLists change key inner))
    | some (.list items) =>
      match entersLists, items.getLast? with
      | true, some (.table inner) =>
        let last ← updateAt entersLists change key inner
        return table.set k (.list (items.dropLast ++ [.table last]))
      | _, _ => none
    | some _ => none

/-- Sets a key that is not there yet. -/
def setNew (k : String) (v : Value) (table : Fields) : Option Fields :=
  if (table.get? k).isSome then none else some (table.set k v)

def isCompound : Value → Bool
  | .table _ | .list _ => true
  | _ => false

/-- Splits a key into what leads to its table and its last part. -/
def splitLast (key : Key) : Option (Key × String) :=
  key.getLast?.map fun k => (key.dropLast, k)

/-- Whether a key is one of the closed ones or lies below one. -/
def isWithin (closed : List Key) (key : Key) : Bool :=
  closed.any (·.isPrefixOf key)

/-- Skips blanks, line feeds and comments between the items of an array. The flag says whether a
comment is being skipped. -/
def skipBetween : Bool → List Char → Option (List Char)
  | _, [] => some []
  | true, c :: cs =>
    if c = '\n' then skipBetween false cs else if isControl c then none else skipBetween true cs
  | false, c :: cs =>
    if isGap c then skipBetween false cs
    else if c = '#' then skipBetween true cs
    else some (c :: cs)

mutual

/-- A value; every step of the reading spends some of the fuel. -/
def value : Nat → List Char → Except Refusal (Scanned Value)
  | 0, _ => .error .grammar
  | fuel + 1, cs =>
    match cs with
    | '"' :: _ | '\'' :: _ => do
      let (body, rest) ← expected (text? cs)
      return (.text (String.ofList body), rest)
    | 't' :: 'r' :: 'u' :: 'e' :: rest => .ok (.bool true, rest)
    | 'f' :: 'a' :: 'l' :: 's' :: 'e' :: rest => .ok (.bool false, rest)
    | '[' :: rest => (items fuel rest).map fun (items, rest) => (.list items, rest)
    | '\x7b' :: rest =>
      match skipSpaces rest with
      | '\x7d' :: rest => .ok (.table [], rest)
      | rest => (pairs fuel [] [] rest).map fun (table, rest) => (.table table, rest)
    | _ => number cs

/-- The items of an array up to its closing bracket. -/
def items : Nat → List Char → Except Refusal (Scanned (List Value))
  | 0, _ => .error .grammar
  | fuel + 1, cs => do
    match ← expected (skipBetween false cs) with
    | ']' :: rest => return ([], rest)
    | cs =>
      let (item, rest) ← value fuel cs
      match ← expected (skipBetween false rest) with
      | ']' :: rest => return ([item], rest)
      | ',' :: rest =>
        let (items, rest) ← items fuel rest
        return (item :: items, rest)
      | _ => .error .grammar

/-- The pairs of an inline table up to its closing brace, added to `table`. -/
def pairs : Nat → List Key → Fields → List Char → Except Refusal (Scanned Fields)
  | 0, _, _, _ => .error .grammar
  | fuel + 1, closed, table, cs => do
    let (key, rest) ← expected (key? cs)
    let (path, last) ← expected (splitLast key)
    let (item, rest) ← value fuel (skipSpaces (← expected (character? '=' rest)))
    if isWithin closed key then .error .grammar
    else
      let table ← expected (updateAt false (setNew last item) path table)
      match skipSpaces rest with
      | '\x7d' :: rest => return (table, rest)
      | ',' :: rest =>
        pairs fuel (if isCompound item then key :: closed else closed) table (skipSpaces rest)
      | _ => .error .grammar

end

/-- A document as far as it is read: its table, the key of the table that is open, the keys of
tables that cannot be opened again, those that join them at the next header, and the keys of values
that cannot be extended. -/
structure Draft where
  table : Fields
  header : Key
  opened : List Key
  pending : List Key
  closed : List Key

namespace Draft

def empty : Draft := ⟨[], [], [], [], []⟩

/-- The proper beginnings of a key, the empty one left out. -/
def beginnings (key : Key) : List Key :=
  (List.range (key.length - 1)).map fun n => key.take (n + 1)

def assign (d : Draft) (key : Key) (item : Value) : Option Draft := do
  let (path, last) ← splitLast key
  let ways := (beginnings key).map (d.header ++ ·)
  if ways.any d.opened.contains || isWithin d.closed (d.header ++ path) then none
  else
    return { d with
      table := ← updateAt true (setNew last item) (d.header ++ path) d.table
      pending := ways ++ d.pending
      closed := if isCompound item then (d.header ++ key) :: d.closed else d.closed }

/-- Ends the table that is open. -/
def settle (d : Draft) : Draft :=
  { d with opened := d.pending ++ d.opened, pending := [] }

def openTable (d : Draft) (key : Key) : Option Draft := do
  let d := d.settle
  if d.opened.contains key || isWithin d.closed key then none
  else
    return { d with
      table := ← updateAt true some key d.table
      header := key
      opened := key :: d.opened }

/-- Adds an empty table to the array of tables at a key. -/
def appendTable (k : String) (table : Fields) : Option Fields :=
  match table.get? k with
  | none => some (table.set k (.list [.table []]))
  | some (.list items) => some (table.set k (.list (items ++ [.table []])))
  | some _ => none

def openElement (d : Draft) (key : Key) : Option Draft := do
  let d := d.settle
  let (path, last) ← splitLast key
  if isWithin d.closed key then none
  else
    return { d with
      table := ← updateAt true (appendTable last) path d.table
      header := key
      opened := key :: d.opened.filter (!key.isPrefixOf ·)
      closed := d.closed.filter (!key.isPrefixOf ·) }

end Draft

/-- Reads one statement, up to the end of its line. -/
def statement (d : Draft) (cs : List Char) : Except Refusal (Scanned Draft) := do
  let (d, cs) ← match cs with
    | '[' :: '[' :: rest => do
      let (key, rest) ← expected (key? (skipSpaces rest))
      let d ← expected (d.openElement key)
      let rest ← expected (character? ']' rest)
      pure (d, ← expected (character? ']' rest))
    | '[' :: rest => do
      let (key, rest) ← expected (key? (skipSpaces rest))
      let d ← expected (d.openTable key)
      pure (d, ← expected (character? ']' rest))
    | '#' :: _ | '\n' :: _ | [] => pure (d, cs)
    | _ => do
      let (key, rest) ← expected (key? cs)
      let rest := skipSpaces (← expected (character? '=' rest))
      let (item, rest) ← value (2 * rest.length + 2) rest
      pure (← expected (d.assign key item), rest)
  return (d, ← expected (skipComment (skipSpaces cs)))

/-- Reads statements to the end; each takes at least the line feed after it. -/
def statements : Nat → Draft → List Char → Except Refusal Draft
  | 0, _, _ => .error .grammar
  | fuel + 1, d, cs => do
    match ← statement d (skipSpaces cs) with
    | (d, []) => return d
    | (d, '\n' :: rest) => statements fuel d rest
    | _ => .error .grammar

/-- A carriage return before a line feed is no part of a document. -/
def joinLineEnds : List Char → List Char
  | '\r' :: '\n' :: cs => '\n' :: joinLineEnds cs
  | c :: cs => c :: joinLineEnds cs
  | [] => []

def read : Reader :=
  fun text =>
    let cs := joinLineEnds text.toList
    (statements (cs.length + 1) .empty cs).map (·.table)

end SpecSkeleton.Toml
