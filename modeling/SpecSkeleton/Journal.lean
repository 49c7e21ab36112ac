import SpecSkeleton.Level

/-!
# Log records

What a run writes to the log, as data. A record says which part of the program wrote it.
-/

namespace SpecSkeleton

inductive LogSource where
  | parser
  | outline
  | editor
  deriving DecidableEq, Repr

structure LogRecord where
  level : Level
  source : LogSource
  message : String
  deriving DecidableEq, Repr

abbrev Journal := List LogRecord

end SpecSkeleton
