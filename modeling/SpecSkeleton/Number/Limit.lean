/-!
# The longest decimal numbers

A whole number of more decimal digits than a limit is neither read nor written in base ten.
-/

namespace SpecSkeleton

def digitLimit : Nat := 4300

/-- What was to be done with a number that is too long for it. -/
inductive LongNumber where
  | read (digits : Nat)
  | written
  deriving DecidableEq, Repr

namespace LongNumber

def advice : String :=
  "use sys.set_int_max_str_digits() to increase the limit"

def message : LongNumber → String
  | read digits =>
    s!"Exceeds the limit ({digitLimit} digits) for integer string conversion: " ++
      s!"value has {digits} digits; {advice}"
  | written => s!"Exceeds the limit ({digitLimit} digits) for integer string conversion; {advice}"

end LongNumber

/-- Whether a number has more digits than the limit. -/
def isLongNumber (n : Int) : Bool :=
  Nat.pow 10 digitLimit ≤ n.natAbs

end SpecSkeleton
