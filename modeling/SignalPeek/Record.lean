/-!
# Log records

A record is what a log finally holds: a level, a fixed message, and named fields.  A field is a
text, or a number where the number itself is meant.
-/

namespace SignalPeek

/-- How urgent a record is. -/
inductive Level where
  | debug
  | info
  | warn
  deriving DecidableEq, Repr

/-- The name of a level. -/
def Level.name : Level → String
  | .debug => "DEBUG"
  | .info => "INFO"
  | .warn => "WARN"

/-- The value of a field. -/
inductive Field where
  | text (value : String)
  | number (value : UInt64)
  deriving DecidableEq, Repr

/-- One entry of a log. -/
structure Record where
  level : Level
  message : String
  fields : List (String × Field)
  deriving DecidableEq, Repr

end SignalPeek
