/-!
# Enclosed texts

The text between an opening character, already read, and what closes it. It is as long as its
characters allow and never empty.
-/

namespace SpecSkeleton.Text

def isQuote (c : Char) : Bool :=
  c == '\'' || c == '"'

/-- The longest head of `cs` in the class `p`, if it is not empty and a character in `close`
follows it. -/
def enclosed? (p close : Char → Bool) (cs : List Char) : Option (List Char) :=
  match cs.takeWhile p, cs.dropWhile p with
  | [], _ => none
  | _ :: _, [] => none
  | c :: body, d :: _ => if close d then some (c :: body) else none

/-- A text up to a quote of either kind. -/
def betweenQuotes? (cs : List Char) : Option (List Char) :=
  enclosed? (fun d => !isQuote d) isQuote cs

end SpecSkeleton.Text
