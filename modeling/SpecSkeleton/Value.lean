import SpecSkeleton.Number.Binary64
import SpecSkeleton.Value.Calendar

/-!
# Untyped values

What a settings file or a record from outside holds before it is checked. A table keeps its keys in
the order they came in, each once.
-/

namespace SpecSkeleton

inductive Value where
  | null
  | bool (b : Bool)
  | int (n : Int)
  | float (x : Binary64)
  | text (s : String)
  | date (d : Date)
  | time (t : TimeOfDay)
  | moment (d : Date) (t : TimeOfDay) (offset : Option UtcOffset)
  | list (items : List Value)
  | table (fields : List (String × Value))
  deriving Repr

abbrev Fields := List (String × Value)

namespace Fields

def get? (fields : Fields) (key : String) : Option Value :=
  fields.lookup key

/-- Sets a key, in its place if it is there and at the end if not. -/
def set : Fields → String → Value → Fields
  | [], key, v => [(key, v)]
  | (k, w) :: rest, key, v => if k = key then (k, v) :: rest else (k, w) :: set rest key v

end Fields

namespace Value

/-- A value that counts as given: not null, false, zero or empty. -/
def isGiven : Value → Bool
  | null => false
  | bool b => b
  | int n => n != 0
  | float (.finite _ significand _) => significand != 0
  | float _ => true
  | text s => !s.isEmpty
  | list items => !items.isEmpty
  | table fields => !fields.isEmpty
  | _ => true

end Value

end SpecSkeleton
