/-!
# Options on a command line

An option is a word that starts with a hyphen. A long option has its value after an equals sign or
in the next word; short options may share a word, the last of them with its value. Two hyphens end
the options. Some commands take options between their arguments, others only before the first.
-/

namespace SpecSkeleton.Command

/-- What an option stands for. -/
inductive OptionUse (α : Type) where
  | flag (a : α)
  | valued (use : String → α)

structure OptionTable (α : Type) where
  long : List (String × OptionUse α)
  short : List (Char × OptionUse α)
  /-- Options may stand between and after arguments. -/
  mixed : Bool

/-- What one word of options says, and how many of the next words it takes. -/
structure OptionWord (α : Type) where
  said : List α
  taken : Nat

namespace OptionTable

variable {α : Type}

/-- The short options of a word, with the word after it. -/
def readShort (t : OptionTable α) (next : Option String) : List Char → Option (OptionWord α)
  | [] => some ⟨[], 0⟩
  | c :: cs =>
    match t.short.lookup c with
    | none => none
    | some (.flag a) => (t.readShort next cs).map fun w => { w with said := a :: w.said }
    | some (.valued use) =>
      if cs ≠ [] then some ⟨[use (String.ofList cs)], 0⟩
      else next.map fun value => ⟨[use value], 1⟩

def readLong (t : OptionTable α) (next : Option String) (word : List Char) :
    Option (OptionWord α) :=
  let name := word.takeWhile (· != '=')
  let value := if name.length < word.length then some (word.drop (name.length + 1)) else none
  match t.long.lookup (String.ofList name), value with
  | none, _ => none
  | some (.flag a), none => some ⟨[a], 0⟩
  | some (.flag _), some _ => none
  | some (.valued use), some value => some ⟨[use (String.ofList value)], 0⟩
  | some (.valued use), none => next.map fun value => ⟨[use value], 1⟩

/-- A word of options, its first hyphen taken off. -/
def readWord (t : OptionTable α) (next : Option String) : List Char → Option (OptionWord α)
  | '-' :: name => t.readLong next name
  | letters => t.readShort next letters

/-- What the options of a command line say, in order, and its arguments. -/
def read (t : OptionTable α) : List String → Option (List α × List String)
  | [] => some ([], [])
  | word :: rest =>
    match word.toList with
    | ['-', '-'] => some ([], rest)
    | '-' :: c :: cs =>
      match t.readWord rest.head? (c :: cs) with
      | none => none
      | some w => (t.read (rest.drop w.taken)).map fun (said, arguments) =>
          (w.said ++ said, arguments)
    | _ =>
      if t.mixed then
        (t.read rest).map fun (said, arguments) => (said, word :: arguments)
      else some ([], word :: rest)
termination_by words => words.length

end OptionTable

end SpecSkeleton.Command
