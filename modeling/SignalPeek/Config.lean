import SignalPeek.Text.Quoted
import SignalPeek.Trace

/-!
# Configuration

What all subscriptions of one operator share besides its hooks: the operator's name, and the sink
for errors that can no longer be delivered.  Without a sink such errors are only noticed.
-/

namespace SignalPeek

/-- The settings of an operator. -/
structure Config where
  /-- The name under which the operator gives notice. -/
  name : String
  /-- The name of the sink for errors that arrive too early or too late. -/
  errorSink : Option String
  deriving DecidableEq, Repr

namespace Config

/-- The settings of an operator that was given none. -/
def standard : Config := { name := "peek_stateful", errorSink := none }

/-- The detailed form of the settings; of a sink it tells only that there is one. -/
def detail (config : Config) : String :=
  "Config \x7b name: " ++ Text.quoted config.name ++
    ", on_error_dropped: " ++ Text.truth config.errorSink.isSome ++ " \x7d"

variable {ν α : Type}

/-- Gives an error to the sink, if there is one. -/
def sink (config : Config) (error : StreamError) : List (Event ν α) :=
  match config.errorSink with
  | some sink => [.sunk sink error]
  | none => []

/-- What becomes of an error that cannot be delivered: notice is given, then the sink has it. -/
def dropError (config : Config) (error : StreamError) : List (Event ν α) :=
  .notice config.name (.errorDropped error) :: config.sink error

end Config

end SignalPeek
