/-!
# Dates and times

Calendar dates of the years 1 to 9999, times of day to the microsecond, and offsets from universal
time in minutes. Seconds run to 59: a leap second has no time here.
-/

namespace SpecSkeleton

structure Date where
  year : Nat
  month : Nat
  day : Nat
  deriving DecidableEq, Repr

structure TimeOfDay where
  hour : Nat
  minute : Nat
  second : Nat
  microsecond : Nat
  deriving DecidableEq, Repr

/-- Minutes ahead of universal time. -/
structure UtcOffset where
  minutes : Int
  deriving DecidableEq, Repr

/-- The digits of a number, filled up with zeros to a width. -/
def paddedDigits (width n : Nat) : String :=
  let digits := Nat.toDigits 10 n
  String.ofList (List.replicate (width - digits.length) '0' ++ digits)

namespace Date

def isLeap (year : Nat) : Bool :=
  year % 4 == 0 && (year % 100 != 0 || year % 400 == 0)

def daysIn (year month : Nat) : Nat :=
  match month with
  | 2 => if isLeap year then 29 else 28
  | 4 | 6 | 9 | 11 => 30
  | _ => 31

def isValid (d : Date) : Bool :=
  1 ≤ d.year && d.year ≤ 9999 && 1 ≤ d.month && d.month ≤ 12 && 1 ≤ d.day &&
    d.day ≤ daysIn d.year d.month

def shown (d : Date) : String :=
  s!"{paddedDigits 4 d.year}-{paddedDigits 2 d.month}-{paddedDigits 2 d.day}"

end Date

namespace TimeOfDay

def isValid (t : TimeOfDay) : Bool :=
  t.hour < 24 && t.minute < 60 && t.second < 60 && t.microsecond < 1000000

def shown (t : TimeOfDay) : String :=
  let clock := s!"{paddedDigits 2 t.hour}:{paddedDigits 2 t.minute}:{paddedDigits 2 t.second}"
  if t.microsecond = 0 then clock else s!"{clock}.{paddedDigits 6 t.microsecond}"

/-- The numbers of a time in a list of arguments: parts of the second only as far as needed. -/
def arguments (t : TimeOfDay) : List Nat :=
  if t.microsecond ≠ 0 then [t.hour, t.minute, t.second, t.microsecond]
  else if t.second ≠ 0 then [t.hour, t.minute, t.second]
  else [t.hour, t.minute]

end TimeOfDay

namespace UtcOffset

def shown (o : UtcOffset) : String :=
  let size := o.minutes.natAbs
  let sign := if o.minutes < 0 then "-" else "+"
  s!"{sign}{paddedDigits 2 (size / 60)}:{paddedDigits 2 (size % 60)}"

/-- The offset as whole days and the seconds of a day left over. -/
def daysAndSeconds (o : UtcOffset) : Int × Nat :=
  (o.minutes / 1440, (o.minutes % 1440).toNat * 60)

end UtcOffset

end SpecSkeleton
