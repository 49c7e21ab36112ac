import SpecSkeleton.Markup.Color

/-!
# Styles

A style is written in words: attributes, each perhaps denied, a colour, a background colour after
`on`, and a link. Two styles of the same effect have the same normal form, under which a style is
opened and closed. What is no style goes by its own text in lower case.
-/

namespace SpecSkeleton.Markup

inductive StyleAttribute where
  | bold
  | dim
  | italic
  | underline
  | blink
  | blink2
  | reverse
  | conceal
  | strike
  | underline2
  | frame
  | encircle
  | overline
  deriving DecidableEq, Repr

namespace StyleAttribute

/-- The attributes in the order of the normal form, with their names. -/
def names : List (StyleAttribute × String) := [
  (bold, "bold"), (dim, "dim"), (italic, "italic"), (underline, "underline"), (blink, "blink"),
  (blink2, "blink2"), (reverse, "reverse"), (conceal, "conceal"), (strike, "strike"),
  (underline2, "underline2"), (frame, "frame"), (encircle, "encircle"), (overline, "overline")]

def shortNames : List (StyleAttribute × String) := [
  (dim, "d"), (bold, "b"), (italic, "i"), (underline, "u"), (reverse, "r"), (conceal, "c"),
  (strike, "s"), (underline2, "uu"), (overline, "o")]

def ofWord? (word : List Char) : Option StyleAttribute :=
  ((names ++ shortNames).find? fun (_, name) => name.toList == word).map Prod.fst

end StyleAttribute

/-- A style. Of two settings of an attribute the first in the list holds. -/
structure Style where
  attributes : List (StyleAttribute × Bool) := []
  color : Option (List Char) := none
  background : Option (List Char) := none
  link : Option (List Char) := none
  deriving DecidableEq, Repr

namespace Style

/-- Reads the words of a style, which change `s` one after the other. -/
def readWords (s : Style) : List (List Char) → Except ColorFault Style
  | [] => .ok s
  | word :: rest =>
    let lowered := Text.lower word
    if lowered = ['o', 'n'] then
      match rest with
      | [] => .error .unknown
      | word :: rest => do readWords { s with background := some (← readColor word) } rest
    else if lowered = ['n', 'o', 't'] then
      match rest with
      | [] => .error .unknown
      | word :: rest =>
        match StyleAttribute.ofWord? word with
        | none => .error .unknown
        | some a => readWords { s with attributes := (a, false) :: s.attributes } rest
    else if lowered = ['l', 'i', 'n', 'k'] then
      match rest with
      | [] => .error .unknown
      | word :: rest => readWords { s with link := some word } rest
    else
      match StyleAttribute.ofWord? lowered with
      | some a => readWords { s with attributes := (a, true) :: s.attributes } rest
      | none => do readWords { s with color := some (← readColor lowered) } rest

/-- The parts of a text between blanks. -/
def wordsOf (cs : List Char) : List (List Char) :=
  (Text.pieces ' ' (cs.map fun c => if Text.isBlank c then ' ' else c)).filter (· != [])

def plainName : List Char := "none".toList

def ofChars (cs : List Char) : Except ColorFault Style :=
  if Text.trim cs = plainName then .ok {} else readWords {} (wordsOf cs)

/-- The words of the normal form. -/
def normalWords (s : Style) : List (List Char) :=
  (StyleAttribute.names.flatMap fun (a, name) =>
    match s.attributes.lookup a with
    | none => []
    | some true => [name.toList]
    | some false => ["not".toList, name.toList]) ++
  s.color.toList ++
  (s.background.map fun c => ["on".toList, c]).getD [] ++
  (s.link.map fun url => ["link".toList, url]).getD []

def normalForm (s : Style) : List Char :=
  match s.normalWords with
  | [] => plainName
  | words => [' '].intercalate words

end Style

/-- The name under which a style is opened and closed. -/
def styleName (cs : List Char) : Except ColorFault (List Char) :=
  match Style.ofChars cs with
  | .ok s => .ok s.normalForm
  | .error .unknown => .ok (Text.lower (Text.trim cs))
  | .error .badNumber => .error .badNumber

end SpecSkeleton.Markup
