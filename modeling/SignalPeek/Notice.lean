import SignalPeek.Fault.Text
import SignalPeek.Phase
import SignalPeek.Record

/-!
# Notices

What a layer has to say about itself.  A layer gives notice of each signal that it refuses and of
each of its hooks that fails, and of nothing else: a signal that passes without incident leaves no
notice, and neither does a fatal error that comes back from further down.

`Notice.record` puts a notice into words.  Only an error that is thrown away and a fatal error that
escapes are warnings.
-/

namespace SignalPeek

/-- An incident at one layer. -/
inductive Notice where
  /-- A second subscription was refused. -/
  | duplicateSubscription
  /-- An item or a completion came when none was expected. -/
  | signalDropped (signal : SignalKind) (phase : Phase)
  /-- An error came when none was expected. -/
  | errorDropped (error : StreamError)
  /-- The seed failed recoverably. -/
  | seedFailed (error : StreamError)
  /-- The hook for items failed recoverably. -/
  | nextHookFailed (error : StreamError)
  /-- The hook for errors failed recoverably while it was shown `given`. -/
  | errorHookFailed (error given : StreamError)
  /-- The hook for completion failed recoverably. -/
  | completeHookFailed (error : StreamError)
  /-- A hook failed for good. -/
  | fatalEscaping (signal : SignalKind) (fatal : Fatal)

namespace Notice

/-- How urgent a notice is. -/
def level : Notice → Level
  | .errorDropped _ | .fatalEscaping _ _ => .warn
  | _ => .debug

/-- The fixed words of a notice. -/
def message : Notice → String
  | .duplicateSubscription => "duplicate on_subscribe; cancelling new subscription"
  | .signalDropped _ _ => "signal dropped outside active phase"
  | .errorDropped _ => "error dropped outside active phase"
  | .seedFailed _ => "seed failed"
  | .nextHookFailed _ => "next hook failed; cancelling upstream"
  | .errorHookFailed _ _ => "error hook failed"
  | .completeHookFailed _ => "complete hook failed"
  | .fatalEscaping _ _ => "fatal hook error escaping"

/-- The particulars of a notice. -/
def details : Notice → List (String × String)
  | .duplicateSubscription => []
  | .signalDropped signal phase => [("signal", signal.name), ("phase", phase.name)]
  | .errorDropped error | .seedFailed error | .nextHookFailed error | .completeHookFailed error =>
    [("error", error.text)]
  | .errorHookFailed error given => [("error", error.text), ("original", given.text)]
  | .fatalEscaping signal fatal => [("signal", signal.name), ("error", fatal.text)]

/-- The record of a notice given by the operator of this name. -/
def record (operator : String) (notice : Notice) : Record where
  level := notice.level
  message := notice.message
  fields := (("operator", operator) :: notice.details).map fun (key, value) => (key, .text value)

end Notice

end SignalPeek
