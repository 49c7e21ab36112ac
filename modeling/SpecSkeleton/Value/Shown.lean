import SpecSkeleton.Number.Limit
import SpecSkeleton.Number.Shortest
import SpecSkeleton.Text.Quoted
import SpecSkeleton.Value

/-!
# Values in messages

A value in a message is written so that its type can be told: texts are quoted, dates and times name
what they are. `Value.shown` differs from `Value.quoted` for a text, a date or a time that stands
alone, which it gives plainly; `Value.written` refuses a value that holds a number longer than the
limit. `Value.typeName` names the type alone.
-/

namespace SpecSkeleton

/-- An argument list between parentheses. -/
def callText (name : String) (arguments : List String) : String :=
  name ++ "(" ++ ", ".intercalate arguments ++ ")"

def Date.numbers (d : Date) : List String :=
  [d.year, d.month, d.day].map toString

def TimeOfDay.numbers (t : TimeOfDay) : List String :=
  t.arguments.map toString

def UtcOffset.quoted (o : UtcOffset) : String :=
  if o.minutes = 0 then "datetime.timezone.utc"
  else
    let (days, seconds) := o.daysAndSeconds
    let parts := (if days = 0 then [] else [s!"days={days}"]) ++
      (if seconds = 0 then [] else [s!"seconds={seconds}"])
    callText "datetime.timezone" [callText "datetime.timedelta" parts]

namespace Value

mutual

def quoted : Value → String
  | null => "None"
  | bool b => if b then "True" else "False"
  | int n => toString n
  | float x => x.shown
  | text s => Text.quoted s
  | date d => callText "datetime.date" d.numbers
  | time t => callText "datetime.time" t.numbers
  | moment d t none => callText "datetime.datetime" (d.numbers ++ t.numbers)
  | moment d t (some o) =>
    callText "datetime.datetime" (d.numbers ++ t.numbers ++ [s!"tzinfo={o.quoted}"])
  | list items => "[" ++ ", ".intercalate (quotedItems items) ++ "]"
  | table fields => "\x7b" ++ ", ".intercalate (quotedFields fields) ++ "\x7d"

def quotedItems : List Value → List String
  | [] => []
  | v :: rest => quoted v :: quotedItems rest

def quotedFields : List (String × Value) → List String
  | [] => []
  | (key, v) :: rest => (Text.quoted key ++ ": " ++ quoted v) :: quotedFields rest

end

def shown : Value → String
  | text s => s
  | date d => d.shown
  | time t => t.shown
  | moment d t none => d.shown ++ " " ++ t.shown
  | moment d t (some o) => d.shown ++ " " ++ t.shown ++ o.shown
  | v => quoted v

mutual

/-- Whether a number in the value is too long to be written. -/
def hasLongNumber : Value → Bool
  | int n => isLongNumber n
  | list items => anyLongNumber items
  | table fields => anyLongField fields
  | _ => false

def anyLongNumber : List Value → Bool
  | [] => false
  | v :: rest => hasLongNumber v || anyLongNumber rest

def anyLongField : List (String × Value) → Bool
  | [] => false
  | (_, v) :: rest => hasLongNumber v || anyLongField rest

end

def written (v : Value) : Except LongNumber String :=
  if v.hasLongNumber then .error .written else .ok v.shown

def typeName : Value → String
  | null => "NoneType"
  | bool _ => "bool"
  | int _ => "int"
  | float _ => "float"
  | text _ => "str"
  | date _ => "datetime.date"
  | time _ => "datetime.time"
  | moment .. => "datetime.datetime"
  | list _ => "list"
  | table _ => "dict"

end Value

end SpecSkeleton
