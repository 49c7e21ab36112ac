import SpecSkeleton.Text.Line

/-!
# Hosts in brackets

A host may be an address in square brackets: one of eight groups of hexadecimal digits, where two
colons may stand for groups of zeros and the last two groups may be four decimal numbers, or one of
a later version that is to come.
-/

namespace SpecSkeleton.Host

def isHexDigit (c : Char) : Bool :=
  c.isDigit || ('a' ≤ c && c ≤ 'f') || ('A' ≤ c && c ≤ 'F')

/-- A decimal number up to 255 without leading zeros. -/
def isOctet (cs : List Char) : Bool :=
  cs != [] && cs.length ≤ 3 && cs.all Char.isDigit && (cs == ['0'] || cs.head? != some '0') &&
    (cs.foldl (fun n c => n * 10 + (c.toNat - '0'.toNat)) 0) ≤ 255

def isFourPart (cs : List Char) : Bool :=
  let parts := Text.pieces '.' cs
  parts.length == 4 && parts.all isOctet

def isGroup (cs : List Char) : Bool :=
  cs != [] && cs.length ≤ 4 && cs.all isHexDigit

/-- How many groups a text between colons writes; only the last may be written as four numbers. -/
def groupCount? : List (List Char) → Option Nat
  | [] => some 0
  | [last] => if isGroup last then some 1 else if isFourPart last then some 2 else none
  | group :: rest => if isGroup group then (groupCount? rest).map (· + 1) else none

/-- Splits a text at its first two colons in a row. -/
def splitAtGap : List Char → Option (List Char × List Char)
  | ':' :: ':' :: rest => some ([], rest)
  | c :: rest => (splitAtGap rest).map fun (before, after) => (c :: before, after)
  | [] => none

def groupsOf (cs : List Char) : List (List Char) :=
  if cs = [] then [] else Text.pieces ':' cs

def isGroupAddress (cs : List Char) : Bool :=
  match splitAtGap cs with
  | none => groupCount? (groupsOf cs) == some 8
  | some (before, after) =>
    (groupsOf before).all isGroup &&
      match groupCount? (groupsOf after) with
      | some n => (groupsOf before).length + n ≤ 7
      | none => false

/-- An address of groups, perhaps with a zone after a percent sign. -/
def isZonedAddress (cs : List Char) : Bool :=
  let zone := cs.dropWhile (· != '%')
  isGroupAddress (cs.takeWhile (· != '%')) &&
    (zone == [] || (zone.length ≥ 2 && !zone.tail.contains '%'))

/-- A version in hexadecimal digits, a point, and anything after it. -/
def isLaterAddress (cs : List Char) : Bool :=
  let rest := cs.dropWhile isHexDigit
  cs.length != rest.length && rest.head? == some '.' && rest.length ≥ 2

end SpecSkeleton.Host
