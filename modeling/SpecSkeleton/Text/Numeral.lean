import SpecSkeleton.Text.Blank

/-!
# Whole numbers in a text

A numeral is a number as a person types it. Blanks around it and a plus sign before it do not count,
nor do zeros at its head and a point with zeros after it at its end. A single low line may stand
between two digits; among the zeros at the head, low lines may stand anywhere but first. A minus
sign stands before the zeros or after them. Numerals of more digits than a limit are refused.

`numeral` reads one.
-/

namespace SpecSkeleton.Text

inductive NumeralFault where
  | malformed
  | tooLong
  deriving DecidableEq, Repr

namespace Numeral

/-- The value of plain digits. -/
def value (ds : List Char) : Nat :=
  ds.foldl (fun n d => n * 10 + (d.toNat - '0'.toNat)) 0

/-- What counts of a numeral after a zero at its head; `last` is the zero or low line before it. -/
def afterZero? (last : Char) : List Char → Option (List Char)
  | [] => some [last]
  | c :: cs =>
    if c = '0' ∨ c = '_' then afterZero? c cs
    else if c.isDigit ∨ c = '-' then some (c :: cs)
    else if c = '.' then some (last :: c :: cs)
    else none

/-- A numeral without the zeros at its head that do not count. -/
def significant? : List Char → Option (List Char)
  | [] => none
  | c :: cs =>
    if c = '0' then afterZero? c cs else if c.isDigit then some (c :: cs) else none

def signedSignificant? : List Char → Option (List Char)
  | '-' :: cs => (significant? cs).map ('-' :: ·)
  | cs => significant? cs

/-- A numeral without its plus sign, after which no minus sign may come. -/
def unsigned? : List Char → Option (List Char)
  | '+' :: '-' :: _ => none
  | '+' :: cs => some cs
  | cs => some cs

/-- A numeral without a point and the zeros after it, of which there is at least one. -/
def withoutPoint (cs : List Char) : List Char :=
  match cs.dropWhile (· != '.') with
  | _ :: '0' :: zeros => if zeros.all (· == '0') then cs.takeWhile (· != '.') else cs
  | _ => cs

/-- Whether every low line stands alone and between other characters. -/
def isGrouped : List Char → Bool
  | [] => true
  | ['_'] => false
  | '_' :: '_' :: _ => false
  | _ :: cs => isGrouped cs

/-- A numeral without the low lines in it. -/
def ungrouped? (cs : List Char) : Option (List Char) :=
  if cs.head? = some '_' ∨ !isGrouped cs then none else some (cs.filter (· != '_'))

/-- The most characters that a numeral may have once it is stripped. -/
def longest : Nat := 4300

/-- Reads a run of digits that does not start with an idle zero; `extra` characters stand before
it. -/
def digits (extra : Nat) (cs : List Char) : Except NumeralFault Nat :=
  let run := cs.takeWhile Char.isDigit
  if cs = ['0'] then .ok 0
  else if run = [] ∨ run.head? = some '0' then .error .malformed
  else if longest < extra + run.length then .error .tooLong
  else if run.length = cs.length then .ok (value run)
  else .error .malformed

def stripped? (cs : List Char) : Option (List Char) := do
  ungrouped? (withoutPoint (← signedSignificant? (← unsigned? cs)))

end Numeral

/-- The number that a numeral writes. -/
def numeral (s : String) : Except NumeralFault Int :=
  match Numeral.stripped? (trimPlain s.toList) with
  | none => .error .malformed
  | some ('-' :: cs) => (Numeral.digits 1 cs).map fun n => -n
  | some cs => (Numeral.digits 0 cs).map fun n => n

end SpecSkeleton.Text
