/-!
# Double precision numbers

A finite number is `significand * 2 ^ power` with fewer than 54 bits of significand and a power of
at least -1074; the significand has all 53 bits unless the power is the least one, so every number
has one form. A decimal is read as the nearest of them, a tie going to the even significand.
-/

namespace SpecSkeleton

inductive Binary64 where
  | finite (negative : Bool) (significand : Nat) (power : Int)
  | infinite (negative : Bool)
  | nan
  deriving DecidableEq, Repr

namespace Binary64

def leastPower : Int := -1074

def greatestPower : Int := 971

/-- The whole number nearest to a ratio, the even one of two. -/
def nearestEven (num den : Nat) : Nat :=
  let down := num / den
  let twice := 2 * (num % den)
  if twice < den ∨ (twice = den ∧ down % 2 = 0) then down else down + 1

/-- The ratio `num / (den * base ^ power)` as a pair. -/
def shifted (base num den : Nat) (power : Int) : Nat × Nat :=
  if 0 ≤ power then (num, den * base.pow power.toNat) else (num * base.pow (-power).toNat, den)

/-- The power of two that leaves 53 bits before the point of a ratio. -/
def powerOf (num den : Nat) : Int :=
  let guess : Int := num.log2 - den.log2
  let (n, d) := shifted 2 num den guess
  max ((if d ≤ n then guess else guess - 1) - 52) leastPower

def ofRatio (negative : Bool) (num den : Nat) : Binary64 :=
  if num = 0 then finite negative 0 leastPower
  else
    let power := powerOf num den
    let (n, d) := shifted 2 num den power
    let rounded := nearestEven n d
    let (significand, power) := if rounded = Nat.pow 2 53 then (Nat.pow 2 52, power + 1)
      else (rounded, power)
    if greatestPower < power then infinite negative else finite negative significand power

/-- The number nearest to `digits * 10 ^ exponent`. Beyond the bounds for the exponent of the first
digit, every decimal overflows or vanishes. -/
def ofDecimal (negative : Bool) (digits : Nat) (exponent : Int) : Binary64 :=
  let first := exponent + (Nat.toDigits 10 digits).length
  if digits = 0 ∨ first < -400 then finite negative 0 leastPower
  else if 400 < first then infinite negative
  else
    let (num, den) := shifted 10 digits 1 (-exponent)
    ofRatio negative num den

/-- The whole number equal to this one, if there is one. -/
def toInt? : Binary64 → Option Int
  | finite negative significand power =>
    let magnitude : Option Nat :=
      if 0 ≤ power then some (significand * Nat.pow 2 power.toNat)
      else if significand % Nat.pow 2 (-power).toNat = 0 then
        some (significand / Nat.pow 2 (-power).toNat)
      else none
    magnitude.map fun n => if negative then -n else n
  | _ => none

end Binary64

end SpecSkeleton
