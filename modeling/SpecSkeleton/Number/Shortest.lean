import SpecSkeleton.Number.Binary64

/-!
# Shortest decimals

The digits of a double are the fewest that read back as the same double; of two such decimals the
one nearer to its value, of two as near the one with the even last digit. A decimal reads back if it
lies between the midpoints to the two neighbouring doubles, the midpoints included when the
significand is even.
-/

namespace SpecSkeleton

/-- A positive decimal `digits * 10 ^ exponent`. -/
structure Decimal where
  digits : Nat
  exponent : Int
  deriving DecidableEq, Repr

namespace Decimal

/-- The exponent of the first digit of a positive ratio. -/
def leadingExponent (num den : Nat) : Int :=
  if den ≤ num then (Nat.toDigits 10 (num / den)).length - 1
  else -((Nat.toDigits 10 ((den - 1) / num)).length : Int)

/-- The point of the grid of multiples of `10 ^ exponent` that reads back as the double
`significand * 2 ^ power`, if one of the two points around its value does. -/
def onGrid? (significand : Nat) (power : Int) (exponent : Int) : Option Decimal :=
  let isClosed := significand % 2 = 0
  let low := if significand = Nat.pow 2 52 ∧ Binary64.leastPower < power then 4 * significand - 1
    else 4 * significand - 2
  let high := 4 * significand + 2
  let (unit, den) := Binary64.shifted 2 1 1 (2 - power)
  let (unit, den) := Binary64.shifted 10 unit den exponent
  let value := 4 * significand * unit
  let readsBack (point : Nat) : Bool :=
    if isClosed then low * unit ≤ point * den ∧ point * den ≤ high * unit
    else low * unit < point * den ∧ point * den < high * unit
  let down := value / den
  let up := down + 1
  match readsBack down, readsBack up with
  | true, true =>
    let below := value - down * den
    let above := up * den - value
    if below < above ∨ (below = above ∧ down % 2 = 0) then some ⟨down, exponent⟩
    else some ⟨up, exponent⟩
  | true, false => some ⟨down, exponent⟩
  | false, true => some ⟨up, exponent⟩
  | false, false => none

/-- The decimal with the fewest digits; seventeen are always enough. -/
def shortest (significand : Nat) (power : Int) : Decimal :=
  let (num, den) := Binary64.shifted 2 significand 1 (-power)
  let first := leadingExponent num den
  let found := (List.range 17).findSome? fun n : Nat => onGrid? significand power (first - n)
  found.getD ⟨significand, 0⟩

/-- The digits without the zeros at their end, and the number of digits before the point. -/
def layout (d : Decimal) : List Char × Int :=
  let written := Nat.toDigits 10 d.digits
  ((written.reverse.dropWhile (· == '0')).reverse, d.exponent + written.length)

end Decimal

namespace Binary64

/-- Digits with a point after the first `point` of them, zeros filling the gap. -/
def positional (digits : List Char) (point : Int) : List Char :=
  if point ≤ 0 then '0' :: '.' :: List.replicate (-point).toNat '0' ++ digits
  else
    let whole := digits.take point.toNat
    let fraction := digits.drop point.toNat
    whole ++ List.replicate (point.toNat - whole.length) '0' ++
      '.' :: (if fraction.isEmpty then ['0'] else fraction)

/-- Digits with the point after the first one and an exponent of two digits or more. -/
def scientific (digits : List Char) (point : Int) : List Char :=
  let exponent := point - 1
  let size := Nat.toDigits 10 exponent.natAbs
  let mantissa :=
    match digits with
    | d :: e :: rest => d :: '.' :: e :: rest
    | short => short
  mantissa ++ 'e' :: (if exponent < 0 then '-' else '+') ::
    List.replicate (2 - size.length) '0' ++ size

/-- How a double is shown: its shortest digits, with a point where no more than sixteen digits
precede it and no more than four zeros follow it at once, else with an exponent. -/
def shown : Binary64 → String
  | nan => "nan"
  | infinite negative => if negative then "-inf" else "inf"
  | finite negative significand power =>
    let sign := if negative then ['-'] else []
    let body :=
      if significand = 0 then ['0', '.', '0']
      else
        let (digits, point) := (Decimal.shortest significand power).layout
        if -4 < point ∧ point ≤ 16 then positional digits point else scientific digits point
    String.ofList (sign ++ body)

end Binary64

end SpecSkeleton
