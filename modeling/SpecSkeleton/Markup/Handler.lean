import SpecSkeleton.Markup.Literal
import SpecSkeleton.Text.Blank
import SpecSkeleton.Text.Word

/-!
# Handlers

A tag whose name starts with an at sign names a handler. Its parameters are a dotted name, the call
of one, or a literal; the arguments of a call are a literal too.
-/

namespace SpecSkeleton.Markup

def isHandlerName (name : List Char) : Bool :=
  name.head? == some '@'

def isDottedChar (c : Char) : Bool :=
  Text.isWord c || c == '.'

/-- The arguments of a call on one line, with their parentheses. -/
def arguments? (parameters : List Char) : Option (List Char) :=
  match parameters.dropWhile isDottedChar with
  | '(' :: rest =>
    if rest.getLast? = some ')' ∧ !rest.contains '\n' then some ('(' :: rest) else none
  | _ => none

/-- Whether the parameters of a handler can be read. -/
def areParameters (parameters : List Char) : Bool :=
  let parameters := Text.trim parameters
  parameters.all isDottedChar || Literal.isLiteral ((arguments? parameters).getD parameters)

end SpecSkeleton.Markup
