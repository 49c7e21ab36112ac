import SpecSkeleton.Toml.Refusal
import SpecSkeleton.Toml.Text
import SpecSkeleton.Value

/-!
# Numbers, dates and times of a TOML document

Numbers in four bases with low lines between digits, decimal fractions, infinities, and dates and
times. A date that the calendar does not have is refused, and a whole number in base ten that is
longer than the limit.
-/

namespace SpecSkeleton.Toml

/-- More digits, each perhaps after one low line; the low lines are dropped. -/
def moreDigits (isDigit : Char → Bool) : List Char → List Char × List Char
  | '_' :: c :: cs =>
    if isDigit c then
      let (more, rest) := moreDigits isDigit cs
      (c :: more, rest)
    else ([], '_' :: c :: cs)
  | c :: cs =>
    if isDigit c then
      let (more, rest) := moreDigits isDigit cs
      (c :: more, rest)
    else ([], c :: cs)
  | [] => ([], [])

def digits? (isDigit : Char → Bool) : List Char → Option (Scanned (List Char))
  | c :: cs =>
    if isDigit c then
      let (more, rest) := moreDigits isDigit cs
      some (c :: more, rest)
    else none
  | [] => none

def isHexDigit (c : Char) : Bool :=
  c.isDigit || ('a' ≤ c && c ≤ 'f') || ('A' ≤ c && c ≤ 'F')

def isOctalDigit (c : Char) : Bool :=
  '0' ≤ c && c ≤ '7'

def isBinaryDigit (c : Char) : Bool :=
  c == '0' || c == '1'

/-- The value of a run of digits in a base up to sixteen. -/
def digitsValue (base : Nat) (ds : List Char) : Nat :=
  ds.foldl (fun n d => n * base + (hexValue? [d]).getD 0) 0

/-- A number in base sixteen, eight or two. -/
def basedNumber? : List Char → Option (Scanned Value)
  | '0' :: 'x' :: cs =>
    (digits? isHexDigit cs).map fun (ds, rest) => (.int (digitsValue 16 ds), rest)
  | '0' :: 'o' :: cs =>
    (digits? isOctalDigit cs).map fun (ds, rest) => (.int (digitsValue 8 ds), rest)
  | '0' :: 'b' :: cs =>
    (digits? isBinaryDigit cs).map fun (ds, rest) => (.int (digitsValue 2 ds), rest)
  | _ => none

def sign : List Char → Bool × List Char
  | '-' :: cs => (true, cs)
  | '+' :: cs => (false, cs)
  | cs => (false, cs)

/-- The digits before the point: a single zero, or digits that do not start with one. -/
def wholePart? : List Char → Option (Scanned (List Char))
  | '0' :: cs => some (['0'], cs)
  | cs => digits? Char.isDigit cs

def fraction? : List Char → Option (Scanned (List Char))
  | '.' :: cs => digits? Char.isDigit cs
  | _ => none

def exponent? : List Char → Option (Scanned Int)
  | c :: cs =>
    if c = 'e' ∨ c = 'E' then
      let (negative, cs) := sign cs
      (digits? Char.isDigit cs).map fun (ds, rest) =>
        ((if negative then -(digitsValue 10 ds : Int) else digitsValue 10 ds), rest)
    else none
  | [] => none

/-- A whole number or a decimal fraction in base ten. -/
def decimalNumber (cs : List Char) : Except Refusal (Scanned Value) := do
  let (negative, cs) := sign cs
  let (whole, cs) ← expected (wholePart? cs)
  let (fraction, cs) := (fraction? cs).getD ([], cs)
  match exponent? cs, fraction with
  | none, [] =>
    if digitLimit < whole.length then .error (.longNumber whole.length)
    else
      let n := digitsValue 10 whole
      return (.int (if negative then -n else n), cs)
  | none, _ =>
    let value := digitsValue 10 (whole ++ fraction)
    return (.float (.ofDecimal negative value (-fraction.length)), cs)
  | some (e, rest), _ =>
    let digits := digitsValue 10 (whole ++ fraction)
    return (.float (.ofDecimal negative digits (e - fraction.length)), rest)

def infinityOrNan? (cs : List Char) : Option (Scanned Value) :=
  let (negative, cs) := sign cs
  match cs with
  | 'i' :: 'n' :: 'f' :: rest => some (.float (.infinite negative), rest)
  | 'n' :: 'a' :: 'n' :: rest => some (.float .nan, rest)
  | _ => none

/-- A number of two digits up to a bound. -/
def twoDigits? (bound : Nat) : List Char → Option (Scanned Nat)
  | c :: d :: cs =>
    let n := digitsValue 10 [c, d]
    if c.isDigit && d.isDigit && n ≤ bound then some (n, cs) else none
  | _ => none

def character? (c : Char) : List Char → Option (List Char)
  | d :: cs => if d = c then some cs else none
  | [] => none

/-- The microseconds after a time; digits past the sixth do not count. -/
def microseconds (cs : List Char) : Nat × List Char :=
  match cs with
  | '.' :: rest =>
    match rest.takeWhile Char.isDigit with
    | [] => (0, cs)
    | d :: ds =>
      (digitsValue 10 ((d :: ds ++ List.replicate 5 '0').take 6), rest.dropWhile Char.isDigit)
  | _ => (0, cs)

def timeOfDay? (cs : List Char) : Option (Scanned TimeOfDay) := do
  let (hour, cs) ← twoDigits? 23 cs
  let (minute, cs) ← twoDigits? 59 (← character? ':' cs)
  let (second, cs) ← twoDigits? 59 (← character? ':' cs)
  let (micro, cs) := microseconds cs
  return (⟨hour, minute, second, micro⟩, cs)

/-- Four digits, a month and a day of 1 to 31, with hyphens between. -/
def dateParts? : List Char → Option (Scanned Date)
  | a :: b :: c :: d :: cs =>
    if a.isDigit && b.isDigit && c.isDigit && d.isDigit then do
      let (month, cs) ← twoDigits? 12 (← character? '-' cs)
      let (day, cs) ← twoDigits? 31 (← character? '-' cs)
      if 1 ≤ month ∧ 1 ≤ day then some (⟨digitsValue 10 [a, b, c, d], month, day⟩, cs) else none
    else none
  | _ => none

def offset? : List Char → Option (Scanned UtcOffset)
  | 'Z' :: cs | 'z' :: cs => some (⟨0⟩, cs)
  | c :: cs =>
    if c = '+' ∨ c = '-' then do
      let (hours, cs) ← twoDigits? 23 cs
      let (minutes, cs) ← twoDigits? 59 (← character? ':' cs)
      let size : Int := hours * 60 + minutes
      return (⟨if c = '-' then -size else size⟩, cs)
    else none
  | [] => none

/-- The time after a date, past a letter T or a space. -/
def timeAfterDate? : List Char → Option (Scanned TimeOfDay)
  | c :: cs => if c = 'T' ∨ c = 't' ∨ c = ' ' then timeOfDay? cs else none
  | [] => none

/-- The value that starts with a date. -/
def moment (date : Date) (cs : List Char) : Value × List Char :=
  match timeAfterDate? cs with
  | none => (.date date, cs)
  | some (time, cs) =>
    match offset? cs with
    | none => (.moment date time none, cs)
    | some (offset, cs) => (.moment date time (some offset), cs)

def number (cs : List Char) : Except Refusal (Scanned Value) :=
  match dateParts? cs with
  | some (date, rest) => if date.isValid then .ok (moment date rest) else .error .grammar
  | none =>
    match timeOfDay? cs with
    | some (time, rest) => .ok (.time time, rest)
    | none =>
      match basedNumber? cs <|> infinityOrNan? cs with
      | some scanned => .ok scanned
      | none => decimalNumber cs

end SpecSkeleton.Toml
