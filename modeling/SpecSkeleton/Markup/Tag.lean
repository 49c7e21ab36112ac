/-!
# Markup

A markup text holds tags between square brackets: a lower-case letter or one of three signs, then
anything up to the closing bracket but an opening one. Backslashes before a tag count in pairs, and
one that is left over makes the tag a plain text. `escape` writes a text so that no part of it is
taken for a tag.
-/

namespace SpecSkeleton.Markup

inductive Piece where
  | char (c : Char)
  /-- A tag without its brackets, after a number of backslashes. -/
  | tag (backslashes : Nat) (body : List Char)
  deriving DecidableEq, Repr

def opensTag (c : Char) : Bool :=
  ('a' ≤ c && c ≤ 'z') || c == '#' || c == '/' || c == '@'

/-- The length of the tag whose opening bracket has just been read. -/
def tagLength? (cs : List Char) : Option Nat :=
  let body := cs.takeWhile fun c => c != ']' && c != '['
  if (body.head?.map opensTag).getD false && (cs.drop body.length).head? == some ']' then
    some body.length
  else none

def backslashes (n : Nat) : List Piece :=
  List.replicate n (.char '\\')

/-- The pieces of a text after a number of backslashes. -/
def piecesAfter (n : Nat) : List Char → List Piece
  | [] => backslashes n
  | c :: cs =>
    if c = '\\' then piecesAfter (n + 1) cs
    else if c = '[' then
      match tagLength? cs with
      | some length => .tag n (cs.take length) :: piecesAfter 0 (cs.drop (length + 1))
      | none => backslashes n ++ .char '[' :: piecesAfter 0 cs
    else backslashes n ++ .char c :: piecesAfter 0 cs
termination_by cs => cs.length

def pieces (cs : List Char) : List Piece :=
  piecesAfter 0 cs

def bracketed (body : List Char) : List Char :=
  '[' :: body ++ [']']

def Piece.escaped : Piece → List Char
  | char c => [c]
  | tag n body => List.replicate (2 * n + 1) '\\' ++ bracketed body

/-- Doubles a backslash that stands alone at the end, where it could be taken to be before a tag. -/
def guardEnd (cs : List Char) : List Char :=
  match cs.reverse with
  | '\\' :: '\\' :: _ => cs
  | '\\' :: _ => cs ++ ['\\']
  | _ => cs

def escape (s : String) : String :=
  String.ofList (guardEnd ((pieces s.toList).flatMap Piece.escaped))

end SpecSkeleton.Markup
