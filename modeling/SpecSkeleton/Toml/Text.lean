import SpecSkeleton.Text.Blank

/-!
# Texts and keys of a TOML document

A scanner takes the rest of a document and gives what it read with what is left, or nothing if the
document breaks the grammar here. A text in double quotes knows escapes, one in single quotes does
not; tripled quotes let either run over several lines, and up to two more quotes at its end belong
to it.
-/

namespace SpecSkeleton.Toml

/-- What was read and what is left. -/
abbrev Scanned (α : Type) := α × List Char

def isSpace (c : Char) : Bool :=
  c == ' ' || c == '\t'

def isGap (c : Char) : Bool :=
  isSpace c || c == '\n'

/-- A control character other than the tabulator. -/
def isControl (c : Char) : Bool :=
  (c.toNat < 0x20 && c != '\t') || c == '\x7f'

def skipSpaces (cs : List Char) : List Char :=
  cs.dropWhile isSpace

/-- Skips a comment up to the end of its line. -/
def skipComment : List Char → Option (List Char)
  | '#' :: cs =>
    if (cs.takeWhile (· != '\n')).any isControl then none else some (cs.dropWhile (· != '\n'))
  | cs => some cs

/-- The value of a run of hexadecimal digits. -/
def hexValue? (cs : List Char) : Option Nat :=
  cs.foldlM (fun n c =>
    if '0' ≤ c ∧ c ≤ '9' then some (n * 16 + (c.toNat - '0'.toNat))
    else if 'a' ≤ c ∧ c ≤ 'f' then some (n * 16 + (c.toNat - 'a'.toNat + 10))
    else if 'A' ≤ c ∧ c ≤ 'F' then some (n * 16 + (c.toNat - 'A'.toNat + 10))
    else none) 0

/-- The character with a number; a surrogate is none. -/
def charOf? (n : Nat) : Option Char :=
  if n.isValidChar then some (Char.ofNat n) else none

def escaped? : Char → Option Char
  | 'b' => some '\x08'
  | 't' => some '\t'
  | 'n' => some '\n'
  | 'f' => some '\x0c'
  | 'r' => some '\r'
  | '"' => some '"'
  | '\\' => some '\\'
  | _ => none

/-- Where a text in double quotes stands: within its characters, on the line of a backslash that
ends it, or on the lines after that, whose leading blanks are skipped. -/
inductive Place where
  | inside
  | afterBackslash
  | nextLines
  deriving DecidableEq, Repr

def prepend (c : Char) (r : Option (Scanned (List Char))) : Option (Scanned (List Char)) :=
  r.map fun (body, rest) => (c :: body, rest)

/-- The rest of a text in double quotes, up to and with the quotes that close it. -/
def doubleQuoted (multiline : Bool) : Place → List Char → Option (Scanned (List Char))
  | _, [] => none
  | place, c :: cs =>
    if place = .afterBackslash then
      if isSpace c then doubleQuoted multiline .afterBackslash cs
      else if c = '\n' then doubleQuoted multiline .nextLines cs
      else none
    else if place = .nextLines ∧ isGap c then doubleQuoted multiline .nextLines cs
    else if c = '"' then
      if multiline then
        match cs with
        | '"' :: '"' :: rest => some ([], rest)
        | _ => prepend c (doubleQuoted multiline .inside cs)
      else some ([], cs)
    else if c = '\\' then
      match cs with
      | 'u' :: d₁ :: d₂ :: d₃ :: d₄ :: rest => do
        let e ← charOf? (← hexValue? [d₁, d₂, d₃, d₄])
        prepend e (doubleQuoted multiline .inside rest)
      | 'U' :: d₁ :: d₂ :: d₃ :: d₄ :: d₅ :: d₆ :: d₇ :: d₈ :: rest => do
        let e ← charOf? (← hexValue? [d₁, d₂, d₃, d₄, d₅, d₆, d₇, d₈])
        prepend e (doubleQuoted multiline .inside rest)
      | '\n' :: rest => if multiline then doubleQuoted multiline .nextLines rest else none
      | e :: rest =>
        if multiline && isSpace e then doubleQuoted multiline .afterBackslash rest
        else
          match escaped? e with
          | some f => prepend f (doubleQuoted multiline .inside rest)
          | none => none
      | [] => none
    else if isControl c && !(multiline && c == '\n') then none
    else prepend c (doubleQuoted multiline .inside cs)

/-- The rest of a text in single quotes on one line. -/
def singleQuoted (cs : List Char) : Option (Scanned (List Char)) :=
  let body := cs.takeWhile (· != '\'')
  match cs.dropWhile (· != '\'') with
  | _ :: rest => if body.any isControl then none else some (body, rest)
  | [] => none

/-- The rest of a text between tripled single quotes. -/
def singleQuotedLines : List Char → Option (Scanned (List Char))
  | [] => none
  | '\'' :: '\'' :: '\'' :: rest => some ([], rest)
  | c :: cs => if isControl c && c != '\n' then none else prepend c (singleQuotedLines cs)

/-- Up to two quotes right after the closing ones belong to the text. -/
def extraQuotes (quote : Char) : List Char × List Char → List Char × List Char
  | (body, c :: d :: rest) =>
    if c = quote then
      if d = quote then (body ++ [quote, quote], rest) else (body ++ [quote], d :: rest)
    else (body, c :: d :: rest)
  | (body, [c]) => if c = quote then (body ++ [quote], []) else (body, [c])
  | (body, []) => (body, [])

def dropLineFeed : List Char → List Char
  | '\n' :: cs => cs
  | cs => cs

/-- A text in any of the four kinds of quotes. -/
def text? : List Char → Option (Scanned (List Char))
  | '"' :: '"' :: '"' :: cs =>
    (doubleQuoted true .inside (dropLineFeed cs)).map (extraQuotes '"')
  | '"' :: cs => doubleQuoted false .inside cs
  | '\'' :: '\'' :: '\'' :: cs => (singleQuotedLines (dropLineFeed cs)).map (extraQuotes '\'')
  | '\'' :: cs => singleQuoted cs
  | _ => none

def isBareKey (c : Char) : Bool :=
  c.isAlphanum || c == '-' || c == '_'

/-- One part of a key: bare, or a text on one line. -/
def keyPart? : List Char → Option (Scanned String)
  | '"' :: cs => (doubleQuoted false .inside cs).map fun (body, rest) => (String.ofList body, rest)
  | '\'' :: cs => (singleQuoted cs).map fun (body, rest) => (String.ofList body, rest)
  | cs =>
    match cs.takeWhile isBareKey with
    | [] => none
    | c :: body => some (String.ofList (c :: body), cs.dropWhile isBareKey)

/-- The parts of a dotted key and the blanks after it, given the number of parts it may have. -/
def keyParts? : Nat → List Char → Option (Scanned (List String))
  | 0, _ => none
  | fuel + 1, cs => do
    let (part, rest) ← keyPart? cs
    match skipSpaces rest with
    | '.' :: more =>
      let (parts, rest) ← keyParts? fuel (skipSpaces more)
      return (part :: parts, rest)
    | rest => return ([part], rest)

/-- A dotted key; it has no more parts than characters. -/
def key? (cs : List Char) : Option (Scanned (List String)) :=
  keyParts? cs.length cs

end SpecSkeleton.Toml
