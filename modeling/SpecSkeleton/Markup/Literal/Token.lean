import SpecSkeleton.Number.Limit
import SpecSkeleton.Text.Line

/-!
# Tokens of a literal

A literal is written in numbers, texts, words and signs. Blanks and comments stand between them, and
line ends where a bracket is open or a backslash comes before them. `tokens` gives the tokens of a
text that holds nothing else; of a number or a text it keeps only what kind it is.
-/

namespace SpecSkeleton.Markup.Literal

inductive Token where
  | number (imaginary : Bool)
  | text (bytes : Bool)
  | word (cs : List Char)
  | ellipsis
  | sign (c : Char)
  /-- The start of another line outside all brackets. -/
  | nextLine
  deriving DecidableEq, Repr

/-! ## Numbers -/

def isHexDigit (c : Char) : Bool :=
  c.isDigit || ('a' ≤ c && c ≤ 'f') || ('A' ≤ c && c ≤ 'F')

/-- Digits in groups, each group but the first after a low line, and the rest. -/
def grouped (isDigit : Char → Bool) : List Char → List Char × List Char
  | '_' :: c :: cs =>
    if isDigit c then
      let (digits, rest) := grouped isDigit cs
      (c :: digits, rest)
    else ([], '_' :: c :: cs)
  | c :: cs =>
    if isDigit c then
      let (digits, rest) := grouped isDigit cs
      (c :: digits, rest)
    else ([], c :: cs)
  | [] => ([], [])

/-- Digits of which the first stands without a low line. -/
def digits (cs : List Char) : List Char × List Char :=
  if (cs.head?.map Char.isDigit).getD false then grouped Char.isDigit cs else ([], cs)

/-- The rest after a number in base sixteen, eight or two. -/
def afterBased? : List Char → Option (List Char)
  | '0' :: base :: cs =>
    let isDigit? : Option (Char → Bool) :=
      if base = 'x' ∨ base = 'X' then some isHexDigit
      else if base = 'o' ∨ base = 'O' then some fun c => '0' ≤ c && c ≤ '7'
      else if base = 'b' ∨ base = 'B' then some fun c => c == '0' || c == '1'
      else none
    match isDigit? with
    | some isDigit =>
      match grouped isDigit cs with
      | ([], _) => none
      | (_, rest) => some rest
    | none => none
  | _ => none

/-- The rest after an exponent, if there is one. -/
def afterExponent? : List Char → Option (List Char)
  | e :: cs =>
    let cs :=
      match cs with
      | '+' :: cs | '-' :: cs => cs
      | cs => cs
    match digits cs with
    | ([], _) => none
    | (_, rest) => if e = 'e' ∨ e = 'E' then some rest else none
  | [] => none

/-- The rest after a fraction and an exponent, of which there is at least one. -/
def afterPoint? (cs : List Char) : Option (List Char) :=
  match cs with
  | '.' :: cs =>
    let rest := (digits cs).2
    some ((afterExponent? rest).getD rest)
  | cs => afterExponent? cs

/-- Whether a whole number may have these digits: without idle zeros, and not too many of them. -/
def isWhole (ds : List Char) : Bool :=
  ds.all (· == '0') || (ds.head? != some '0' && ds.length ≤ digitLimit)

def decimal? (cs : List Char) : Option (Token × List Char) :=
  let (whole, rest) := digits cs
  let fractional := afterPoint? rest
  match fractional.getD rest with
  | 'j' :: rest | 'J' :: rest => some (.number true, rest)
  | rest =>
    if fractional.isSome || isWhole whole then some (.number false, rest) else none

def isWordChar (c : Char) : Bool :=
  c.isAlphanum || c == '_' || 0x80 ≤ c.toNat

/-- A number, after which no word may start at once. -/
def number? (cs : List Char) : Option (Token × List Char) := do
  let (token, rest) ← match afterBased? cs with
    | some rest => some (.number false, rest)
    | none => decimal? cs
  if (rest.head?.map isWordChar).getD false then none else some (token, rest)

/-! ## Texts -/

/-- What the letters before a text ask for. -/
structure TextForm where
  raw : Bool
  bytes : Bool
  deriving DecidableEq, Repr

def TextForm.ofLetters? (letters : List Char) : Option TextForm :=
  match letters.map Char.toLower with
  | [] | ['u'] => some ⟨false, false⟩
  | ['r'] => some ⟨true, false⟩
  | ['b'] => some ⟨false, true⟩
  | ['b', 'r'] | ['r', 'b'] => some ⟨true, true⟩
  | _ => none

/-- The rest after a number of hexadecimal digits. -/
def afterHex? (n : Nat) (cs : List Char) : Option (List Char) :=
  if (cs.take n).length = n ∧ (cs.take n).all isHexDigit then some (cs.drop n) else none

def isNameChar (c : Char) : Bool :=
  c.isAlphanum || c == ' ' || c == '-'

/-- The rest after the name of a character in braces. Names are not looked up. -/
def afterName? : List Char → Option (List Char)
  | '\x7b' :: cs =>
    let name := cs.takeWhile isNameChar
    match cs.drop name.length with
    | '\x7d' :: rest => if name = [] then none else some rest
    | _ => none
  | _ => none

/-- Whether eight digits write a number that a character can have. -/
def isCharNumber (cs : List Char) : Bool :=
  cs.take 3 == ['0', '0', '0'] || cs.take 4 == ['0', '0', '1', '0']

/-- The rest after what follows a backslash. -/
def afterEscape? (form : TextForm) : List Char → Option (List Char)
  | [] => none
  | c :: cs =>
    if form.raw then some cs
    else if c = 'x' then afterHex? 2 cs
    else if form.bytes then some cs
    else if c = 'u' then afterHex? 4 cs
    else if c = 'U' then if isCharNumber cs then afterHex? 8 cs else none
    else if c = 'N' then afterName? cs
    else some cs

/-- The rest after a text, up to and with its closing quotes; each step spends some fuel. -/
def afterText? (form : TextForm) (quote : Char) (tripled : Bool) : Nat → List Char →
    Option (List Char)
  | 0, _ => none
  | _, [] => none
  | fuel + 1, c :: cs =>
    if form.bytes && 0x80 ≤ c.toNat then none
    else if c = '\\' then
      match cs with
      | d :: _ =>
        if form.bytes && 0x80 ≤ d.toNat then none
        else do afterText? form quote tripled fuel (← afterEscape? form cs)
      | [] => none
    else if c = quote then
      if !tripled then some cs
      else
        match cs with
        | d :: e :: rest =>
          if d = quote ∧ e = quote then some rest else afterText? form quote tripled fuel cs
        | _ => none
    else if c = '\n' ∧ !tripled then none
    else afterText? form quote tripled fuel cs

/-- A text whose opening quote comes first. -/
def text? (form : TextForm) : List Char → Option (Token × List Char)
  | [] => none
  | quote :: cs =>
    let tripled := cs.take 2 == [quote, quote]
    let body := if tripled then cs.drop 2 else cs
    (afterText? form quote tripled (body.length + 1) body).map fun rest => (.text form.bytes, rest)

def isQuote (c : Char) : Bool :=
  c == '\'' || c == '"'

/-- A word, or a text with letters before it. -/
def wordOrText? (cs : List Char) : Option (Token × List Char) :=
  let word := cs.takeWhile isWordChar
  let rest := cs.drop word.length
  if (rest.head?.map isQuote).getD false then do
    text? (← TextForm.ofLetters? word) rest
  else some (.word word, rest)

/-! ## All tokens -/

def isSpace (c : Char) : Bool :=
  c == ' ' || c == '\t' || c == '\x0c'

/-- Whether a line starts with blanks; a form feed undoes those before it. -/
def isIndented (line : List Char) : Bool :=
  ((line.takeWhile isSpace).getLast?.map (· != '\x0c')).getD false

/-- The most brackets that may be open. -/
def deepest : Nat := 200

/-- A token that is no bracket. -/
def token? (c : Char) (cs : List Char) : Option (Token × List Char) :=
  if c = '.' ∧ cs.take 2 = ['.', '.'] then some (.ellipsis, cs.drop 2)
  else if c.isDigit || (c == '.' && (cs.head?.map Char.isDigit).getD false) then number? (c :: cs)
  else if isWordChar c || isQuote c then wordOrText? (c :: cs)
  else if c = ',' ∨ c = ':' ∨ c = '+' ∨ c = '-' then some (.sign c, cs)
  else none

/-- The tokens of a text where `depth` brackets are open; each step spends some fuel. -/
def tokensFrom : Nat → Nat → List Char → Option (List Token)
  | 0, _, _ => none
  | _ + 1, depth, [] => if depth = 0 then some [] else none
  | fuel + 1, depth, c :: cs =>
    if isSpace c then tokensFrom fuel depth cs
    else if c = '#' then tokensFrom fuel depth (cs.dropWhile (· != '\n'))
    else if c = '\\' then
      match cs with
      | '\n' :: rest => tokensFrom fuel depth rest
      | _ => none
    else if c = '\n' then
      match (cs.dropWhile isSpace).head? with
      | none | some '#' | some '\n' => tokensFrom fuel depth cs
      | some _ =>
        if depth ≠ 0 then tokensFrom fuel depth cs
        else if isIndented cs then none
        else do return .nextLine :: (← tokensFrom fuel depth cs)
    else if c = '(' ∨ c = '\x7b' then
      if depth < deepest then do return .sign c :: (← tokensFrom fuel (depth + 1) cs) else none
    else if c = ')' ∨ c = '\x7d' then
      if depth = 0 then none else do return .sign c :: (← tokensFrom fuel (depth - 1) cs)
    else do
      let (token, rest) ← token? c cs
      return token :: (← tokensFrom fuel depth rest)

/-- The text after backslashes that join its first line to empty ones; it may not be indented
then. -/
def afterJoins? : List Char → Option (List Char)
  | '\\' :: '\n' :: cs => if isIndented cs then none else afterJoins? cs
  | cs => some cs

/-- The tokens of a text; lines before the first token do not count. -/
def tokens (cs : List Char) : Option (List Token) := do
  let cs ← afterJoins? (Text.foldNewlines cs)
  if cs.contains '\x00' then none
  else return (← tokensFrom (cs.length + 1) 0 cs).dropWhile (· == .nextLine)

end SpecSkeleton.Markup.Literal
