import SpecSkeleton.Kind
import SpecSkeleton.Text.Blank
import SpecSkeleton.Text.Enclosed
import SpecSkeleton.Text.Word

/-!
# Declared names

The name of an element is read off the text after its keyword: a quoted text, a word with or without
a colon before it, or a text in parentheses, whichever comes first; failing these, the text up to
the first blank without its brackets. A hook has no name of its own and takes its keyword.
-/

namespace SpecSkeleton

def isBracket (c : Char) : Bool :=
  c == '{' || c == '}' || c == '(' || c == ')'

/-- A text between quotes; either quote mark closes it. -/
def quotedName? : List Char → Option (List Char)
  | [] => none
  | c :: cs => if Text.isQuote c then Text.betweenQuotes? cs else none

/-- A word, with or without a colon before it. -/
def bareName? (cs : List Char) : Option (List Char) :=
  let word := fun s : List Char =>
    match s.takeWhile Text.isWord with
    | [] => none
    | c :: body => some (c :: body)
  match cs with
  | ':' :: rest => word rest
  | _ => word cs

/-- A text between parentheses. -/
def parenthesizedName? : List Char → Option (List Char)
  | '(' :: cs => Text.enclosed? (fun c => c != ')') (fun c => c == ')') cs
  | _ => none

/-- The text up to the first blank, without brackets. -/
def firstToken (cs : List Char) : List Char :=
  (cs.takeWhile fun c => !Text.isBlank c).filter fun c => !isBracket c

def declaredChars (naming : List Char) : List Char :=
  match (quotedName? naming <|> bareName? naming) <|> parenthesizedName? naming with
  | some found => Text.trim found
  | none => firstToken naming

/-- The name of an element of the given kind, from the text after its keyword. -/
def declaredName (kind : Kind) (naming : List Char) : String :=
  if kind.isHook then kind.keyword else String.ofList (declaredChars naming)

end SpecSkeleton
