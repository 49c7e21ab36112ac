import SpecSkeleton.Markup.Handler
import SpecSkeleton.Markup.Picture
import SpecSkeleton.Markup.Style
import SpecSkeleton.Markup.Tag
import SpecSkeleton.Text.Wrap

/-!
# Markup on a plain terminal

A terminal without colours shows the text between the tags. The tags still have to fit: one that
closes a style needs an open one of that style, and one that names none needs any open one. The
parameters of a handler are read when it is closed, and the styles of what is shown once it is
complete. What a terminal would act on is left out.

`content` is the text that is shown, `plain` that text in rows of the terminal.
-/

namespace SpecSkeleton.Markup

/-- Why a markup text cannot be shown. -/
inductive Fault where
  | notOpen (style : String)
  | nothingOpen
  | badParameters (parameters : String)
  | badNumber
  deriving DecidableEq, Repr

def Fault.message : Fault → String
  | notOpen style => s!"closing tag '[/{style}]' doesn't match any open tag"
  | nothingOpen => "closing tag '[/]' has nothing to close"
  | badParameters parameters => s!"error parsing '{parameters}'"
  | badNumber => "a part of a colour is no number"

/-- A stretch of characters between tags: a backslash before an opening bracket goes. -/
def unescape : List Char → List Char
  | '\\' :: '[' :: cs => '[' :: unescape cs
  | c :: cs => c :: unescape cs
  | [] => []

/-- The bell, the backspace, the vertical tabulator, the form feed and the carriage return. -/
def isControl (c : Char) : Bool :=
  [7, 8, 11, 12, 13].contains c.toNat

def shownStretch (cs : List Char) : List Char :=
  (withPictures (unescape cs)).filter (!isControl ·)

/-- A tag that has been opened, and how many characters had been shown then. -/
structure OpenTag where
  name : List Char
  parameters : Option (List Char)
  start : Nat
  deriving DecidableEq, Repr

/-- The style that a tag gives to what it holds. -/
def OpenTag.style (t : OpenTag) : List Char :=
  match t.parameters with
  | none => t.name
  | some parameters => t.name ++ ' ' :: parameters

/-- A part of what is shown that has a style. -/
structure StyledPart where
  start : Nat
  stop : Nat
  style : List Char
  deriving DecidableEq, Repr

/-- What has been shown so far, the tags that are open, innermost first, and the parts that have got
their style. -/
structure Showing where
  shown : List Char
  stretch : List Char
  tags : List OpenTag
  parts : List StyledPart

namespace Showing

def empty : Showing := ⟨[], [], [], []⟩

/-- Ends a stretch of characters. -/
def flush (s : Showing) : Showing :=
  { s with shown := s.shown ++ shownStretch s.stretch.reverse, stretch := [] }

def styled (s : Showing) (t : OpenTag) : Showing :=
  { s with parts := ⟨t.start, s.shown.length, t.style⟩ :: s.parts }

/-- Ends a tag that is no longer open. -/
def finish (s : Showing) (t : OpenTag) : Except Fault Showing :=
  if isHandlerName t.name then
    match t.parameters with
    | some parameters =>
      if areParameters parameters then .ok s
      else .error (.badParameters (String.ofList parameters))
    | none => .ok s
  else .ok (s.styled t)

def nameOf (cs : List Char) : Except Fault (List Char) :=
  (styleName cs).mapError fun _ => .badNumber

def close (s : Showing) (name : List Char) : Except Fault Showing :=
  if Text.trim name = [] then
    match s.tags with
    | [] => .error .nothingOpen
    | t :: rest => finish { s with tags := rest } t
  else do
    let style ← nameOf (Text.trim name)
    match s.tags.find? (·.name == style) with
    | none => .error (.notOpen (String.ofList (Text.trim name)))
    | some t => finish { s with tags := s.tags.eraseP (·.name == style) } t

/-- Opens or closes the style that a tag names; what follows an equals sign are its parameters. -/
def tag (s : Showing) (body : List Char) : Except Fault Showing :=
  let name := body.takeWhile (· != '=')
  match name with
  | '/' :: name => s.close name
  | name => do
    let style ← nameOf name
    let parameters :=
      match body.drop name.length with
      | [] => none
      | _ :: parameters => some parameters
    return { s with tags := ⟨style, parameters, s.shown.length⟩ :: s.tags }

def piece (s : Showing) : Piece → Except Fault Showing
  | .char c => .ok { s with stretch := c :: s.stretch }
  | .tag n body =>
    let s := s.flush
    let s := { s with shown := s.shown ++ List.replicate (n / 2) '\\' }
    if n % 2 = 1 then .ok { s with shown := s.shown ++ shownStretch (bracketed body) }
    else s.tag body

/-- Gives the tags that were never closed their parts. -/
def finishAll (s : Showing) : Showing :=
  s.tags.foldl styled s

end Showing

/-- Whether a part has anything to show. In a text on one line without tabulators every part is
kept, in others those that hold more than line ends. -/
def StyledPart.isKept (shown : List Char) (p : StyledPart) : Bool :=
  !(shown.any fun c => c == '\n' || c == '\t') ||
    ((shown.drop p.start).take (p.stop - p.start)).any (· != '\n')

def StyledPart.hasBadNumber (p : StyledPart) : Bool :=
  match Style.ofChars p.style with
  | .error .badNumber => true
  | _ => false

/-- The text of a markup text. -/
def content (markup : String) : Except Fault (List Char) := do
  let s ← (pieces markup.toList).foldlM Showing.piece Showing.empty
  let s := s.flush.finishAll
  if s.parts.any fun p => p.isKept s.shown && p.hasBadNumber then .error .badNumber
  else return s.shown

/-- The columns of a terminal that has no width of its own. -/
def terminalColumns : Nat := 10000

/-- The rows of a markup text on a terminal that has some columns left for it. -/
def terminalRows (columns : Nat) (markup : String) : Except Fault (List String) :=
  (content markup).map fun cs => (Text.wrap .fold columns cs).map String.ofList

/-- A markup text as a terminal shows it. -/
def plain (markup : String) : Except Fault String :=
  (terminalRows terminalColumns markup).map fun rows => "\n".intercalate rows

/-- A text in a style. -/
def styled (style text : String) : String :=
  s!"[{style}]{text}[/{style}]"

end SpecSkeleton.Markup
