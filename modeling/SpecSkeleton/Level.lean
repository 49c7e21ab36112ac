/-!
# Log levels

The five levels a log record can have and settings can ask for, in increasing order of weight.
-/

namespace SpecSkeleton

inductive Level where
  | debug
  | info
  | warning
  | error
  | critical
  deriving DecidableEq, Repr

namespace Level

def all : List Level :=
  [debug, info, warning, error, critical]

def name : Level → String
  | debug => "DEBUG"
  | info => "INFO"
  | warning => "WARNING"
  | error => "ERROR"
  | critical => "CRITICAL"

def weight : Level → Nat
  | debug => 10
  | info => 20
  | warning => 30
  | error => 40
  | critical => 50

def ofName? (s : String) : Option Level :=
  all.find? (·.name == s)

end Level

end SpecSkeleton
