import SpecSkeleton.Number.Limit

/-!
# Refused documents

A document that breaks a rule of the format is refused as a whole, at the first place where it does.
So is one that holds a decimal number longer than the limit.
-/

namespace SpecSkeleton.Toml

/-- A broken rule, and where if the reader says so. Line and column count from one. -/
structure Fault where
  message : String
  line : Option Int
  column : Option Int
  deriving DecidableEq, Repr

inductive Refusal where
  | malformed (fault : Fault)
  | longNumber (digits : Nat)
  deriving DecidableEq, Repr

/-- The refusal of a document that breaks the grammar. -/
def Refusal.grammar : Refusal :=
  .malformed ⟨"the document breaks the grammar", none, none⟩

/-- Goes on with what a scanner gave, if it gave something. -/
def expected {α : Type} : Option α → Except Refusal α
  | some a => .ok a
  | none => .error .grammar

end SpecSkeleton.Toml
