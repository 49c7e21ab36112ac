import SpecSkeleton.Markup.Literal.Token

/-!
# Literals

The values that can be written out: numbers, perhaps with a sign or with an imaginary part added,
texts and bytes, the three constant words, the ellipsis, and tuples, sets and tables of values. Sets
and keys hold no value that is or contains a set or a table. `isLiteral` tells whether a text writes
one value, or several with commas between them.
-/

namespace SpecSkeleton.Markup.Literal

/-- What a part of a literal can be used for. -/
inductive Shape where
  | number (imaginary : Bool)
  | signed (imaginary : Bool)
  | constant
  | compound (hashable : Bool)
  /-- The word that makes an empty set when a pair of parentheses follows. -/
  | setWord
  deriving DecidableEq, Repr

namespace Shape

def isValue : Shape → Bool
  | setWord => false
  | _ => true

def isHashable : Shape → Bool
  | compound hashable => hashable
  | setWord => false
  | _ => true

def isReal : Shape → Bool
  | number imaginary | signed imaginary => !imaginary
  | _ => false

end Shape

/-- What was read and the tokens that are left. -/
abbrev Parsed (α : Type) := α × List Token

def ofWord? (word : List Char) : Option Shape :=
  if word = "True".toList ∨ word = "False".toList ∨ word = "None".toList then some .constant
  else if word = "set".toList then some .setWord
  else none

/-- The texts that come right after one are parts of it, and of its kind. -/
def joinTexts (bytes : Bool) : List Token → Option (Parsed Shape)
  | .text other :: rest => if other = bytes then joinTexts bytes rest else none
  | rest => some (.constant, rest)

def onlyValue (p : Parsed Shape) : Option (Parsed Shape) :=
  if p.1.isValue then some p else none

mutual

/-- A sum of a real and an imaginary number, or a term; each step spends some fuel. -/
def sum : Nat → List Token → Option (Parsed Shape)
  | 0, _ => none
  | fuel + 1, ts => do
    let (left, ts) ← signedTerm fuel ts
    match ts with
    | .sign c :: rest =>
      if c = '+' ∨ c = '-' then
        match ← term fuel rest with
        | (.number true, rest) => if left.isReal then some (.constant, rest) else none
        | _ => none
      else some (left, ts)
    | ts => some (left, ts)

/-- A term, or a number with a sign before it. -/
def signedTerm : Nat → List Token → Option (Parsed Shape)
  | 0, _ => none
  | fuel + 1, .sign '+' :: ts | fuel + 1, .sign '-' :: ts => do
    match ← term fuel ts with
    | (.number imaginary, ts) => some (.signed imaginary, ts)
    | _ => none
  | fuel + 1, ts => term fuel ts

/-- An atom, or the empty set. -/
def term : Nat → List Token → Option (Parsed Shape)
  | 0, _ => none
  | fuel + 1, ts => do
    match ← atom fuel ts with
    | (.setWord, .sign '(' :: .sign ')' :: ts) => some (.compound false, ts)
    | parsed => some parsed

def atom : Nat → List Token → Option (Parsed Shape)
  | 0, _ => none
  | fuel + 1, ts =>
    match ts with
    | .number imaginary :: ts => some (.number imaginary, ts)
    | .text bytes :: ts => joinTexts bytes ts
    | .ellipsis :: ts => some (.constant, ts)
    | .word word :: ts => (ofWord? word).map fun shape => (shape, ts)
    | .sign '(' :: .sign ')' :: ts => some (.compound true, ts)
    | .sign '(' :: ts => do
      match ← sum fuel ts with
      | (shape, .sign ')' :: ts) => some (shape, ts)
      | (shape, .sign ',' :: ts) =>
        let (_, ts) ← onlyValue (shape, ts)
        let (hashable, ts) ← items fuel (.sign ')') ts
        some (.compound (hashable && shape.isHashable), ts)
      | _ => none
    | .sign '\x7b' :: .sign '\x7d' :: ts => some (.compound false, ts)
    | .sign '\x7b' :: ts => do
      match ← sum fuel ts with
      | (shape, .sign '\x7d' :: ts) => if shape.isHashable then some (.compound false, ts) else none
      | (shape, .sign ',' :: ts) =>
        let (hashable, ts) ← items fuel (.sign '\x7d') ts
        if hashable && shape.isHashable then some (.compound false, ts) else none
      | (shape, .sign ':' :: ts) =>
        if shape.isHashable then pairs fuel ts else none
      | _ => none
    | _ => none

/-- The items after a comma up to a closing sign, and whether all of them may be in a set. -/
def items : Nat → Token → List Token → Option (Parsed Bool)
  | 0, _, _ => none
  | _, _, [] => none
  | fuel + 1, closing, t :: ts => do
    if t = closing then some (true, ts)
    else
      let (shape, ts) ← (sum fuel (t :: ts)).bind onlyValue
      match ts with
      | .sign ',' :: ts =>
        let (hashable, ts) ← items fuel closing ts
        some (hashable && shape.isHashable, ts)
      | t :: ts => if t = closing then some (shape.isHashable, ts) else none
      | [] => none

/-- The rest of a table after the colon of a pair. -/
def pairs : Nat → List Token → Option (Parsed Shape)
  | 0, _ => none
  | fuel + 1, ts => do
    match ← (sum fuel ts).bind onlyValue with
    | (_, .sign '\x7d' :: ts) | (_, .sign ',' :: .sign '\x7d' :: ts) => some (.compound false, ts)
    | (_, .sign ',' :: ts) =>
      match ← sum fuel ts with
      | (shape, .sign ':' :: ts) => if shape.isHashable then pairs fuel ts else none
      | _ => none
    | _ => none

end

/-- Fuel that is enough for some tokens: no token takes more than four steps in a row. -/
def fuelFor (ts : List Token) : Nat :=
  5 * ts.length + 5

/-- Whether a text writes one value, or several with commas between them. -/
def isLiteral (cs : List Char) : Bool :=
  match tokens cs with
  | none => false
  | some ts =>
    match (sum (fuelFor ts) ts).bind onlyValue with
    | some (_, []) => true
    | some (_, .sign ',' :: rest) =>
      match items (fuelFor ts) .nextLine (rest ++ [.nextLine]) with
      | some (_, []) => true
      | _ => false
    | _ => false

end SpecSkeleton.Markup.Literal
