/-!
# Name patterns

A pattern for the names in a directory. A star stands for any characters, a question mark for one,
and brackets for one of a set of characters and ranges, or for one outside it if an exclamation mark
comes first. A closing bracket that comes first is in the set, a bracket that is never closed stands
for itself, and a range from a larger to a smaller character is empty.

`NamePattern.accepts` goes once through the name for each part of the pattern.
-/

namespace SpecSkeleton

inductive CharTest where
  | any
  | one (c : Char)
  | set (negated : Bool) (ranges : List (Char × Char))
  deriving DecidableEq, Repr

def CharTest.holds : CharTest → Char → Bool
  | any, _ => true
  | one c, x => x == c
  | set negated ranges, x => (ranges.any fun (lo, hi) => lo ≤ x && x ≤ hi) != negated

inductive PatternItem where
  | star
  | single (t : CharTest)
  deriving DecidableEq, Repr

abbrev NamePattern := List PatternItem

namespace NamePattern

/-- How many characters stand between an opening bracket and the one that closes it. -/
def setLength? (cs : List Char) : Option Nat :=
  let negation := if cs.head? = some '!' then 1 else 0
  let first := if (cs.drop negation).head? = some ']' then 1 else 0
  let rest := cs.drop (negation + first)
  let body := rest.takeWhile (· != ']')
  if body.length < rest.length then some (negation + first + body.length) else none

/-- A part of a set: a character, or the hyphen between the two that bound a range. -/
inductive SetMark where
  | char (c : Char)
  | hyphen
  deriving DecidableEq, Repr

/-- Cuts a set at the hyphens of its ranges. The next `skip` characters cannot be one of these, and
neither can the two after each of them. -/
def chunksAfter (chunk : List Char) : Nat → List Char → List (List Char)
  | _, [] => [chunk]
  | 0, '-' :: cs => chunk :: chunksAfter [] 2 cs
  | skip, c :: cs => chunksAfter (chunk ++ [c]) (skip - 1) cs

/-- A hyphen at the end of a set is no hyphen of a range. -/
def keepLastHyphen : List (List Char) → List (List Char)
  | [chunk, []] => [chunk ++ ['-']]
  | chunk :: chunks => chunk :: keepLastHyphen chunks
  | [] => []

def chunksOf (cs : List Char) : List (List Char) :=
  keepLastHyphen (chunksAfter [] (if cs.head? = some '!' then 2 else 1) cs)

/-- Puts a chunk before others. A range that would be empty vanishes with both its bounds. -/
def joinChunk (chunk : List Char) : List (List Char) → List (List Char)
  | (hi :: more) :: chunks =>
    match chunk.getLast? with
    | some lo =>
      if hi < lo then (chunk.dropLast ++ more) :: chunks else chunk :: (hi :: more) :: chunks
    | none => chunk :: (hi :: more) :: chunks
  | chunks => chunk :: chunks

def marksOf : List (List Char) → List SetMark
  | [] => []
  | [chunk] => chunk.map .char
  | chunk :: chunks => chunk.map .char ++ .hyphen :: marksOf chunks

/-- The ranges of a set, a single character as a range of its own. -/
def rangesOf : List SetMark → List (Char × Char)
  | .char lo :: .hyphen :: .char hi :: rest => (lo, hi) :: rangesOf rest
  | .char c :: rest => (c, c) :: rangesOf rest
  | .hyphen :: rest => ('-', '-') :: rangesOf rest
  | [] => []

/-- The test of what stands between brackets. The mark of a negation is looked for after the empty
ranges have vanished. -/
def setOf (cs : List Char) : CharTest :=
  match marksOf ((chunksOf cs).foldr joinChunk []) with
  | .char '!' :: marks => .set true (rangesOf marks)
  | marks => .set false (rangesOf marks)

def ofChars : List Char → NamePattern
  | [] => []
  | c :: cs =>
    if c = '*' then .star :: ofChars cs
    else if c = '?' then .single .any :: ofChars cs
    else if c = '[' then
      match setLength? cs with
      | some n => .single (setOf (cs.take n)) :: ofChars (cs.drop (n + 1))
      | none => .single (.one c) :: ofChars cs
    else .single (.one c) :: ofChars cs
termination_by cs => cs.length

/-- For each place of a list, whether there is a hit at it or after it. -/
def hitsFromHere : List Bool → List Bool
  | [] => []
  | hit :: hits =>
    let later := hitsFromHere hits
    (hit || later.headD false) :: later

/-- For each tail of a name, from the whole name down to the empty one, whether a pattern accepts
it. -/
def acceptedTails : NamePattern → List Char → List Bool
  | [], cs => cs.map (fun _ => false) ++ [true]
  | .star :: rest, cs => hitsFromHere (acceptedTails rest cs)
  | .single t :: rest, cs =>
    cs.zipWith (fun c hit => t.holds c && hit) (acceptedTails rest cs).tail ++ [false]

def accepts (p : NamePattern) (cs : List Char) : Bool :=
  (acceptedTails p cs).headD false

end NamePattern

end SpecSkeleton
