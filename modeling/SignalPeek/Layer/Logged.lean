import SignalPeek.Hooks
import SignalPeek.Record

/-!
# Logging hooks

Hooks that write every signal to the log and do nothing else.  The state is the number of signals
logged so far; each signal is counted first and then written with its number.  A subscription starts
at one, and every kind of signal counts alike.

The number has 64 bits.
-/

namespace SignalPeek

/-- What is written for one signal. -/
inductive LogEntry where
  | next (operator : String) (seq : UInt64) (item : String)
  | error (operator : String) (seq : UInt64) (text : String)
  | complete (operator : String) (seq : UInt64)
  deriving DecidableEq, Repr

namespace LogEntry

/-- The number of an entry. -/
def seq : LogEntry → UInt64
  | .next _ seq _ | .error _ seq _ | .complete _ seq => seq

/-- The record of an entry.  An error is a warning. -/
def record : LogEntry → Record
  | .next operator seq item =>
    { level := .info
      message := "on_next"
      fields := [("operator", .text operator), ("seq", .number seq), ("item", .text item)] }
  | .error operator seq text =>
    { level := .warn
      message := "on_error"
      fields := [("operator", .text operator), ("seq", .number seq), ("error", .text text)] }
  | .complete operator seq =>
    { level := .info
      message := "on_complete"
      fields := [("operator", .text operator), ("seq", .number seq)] }

end LogEntry

/-- The number of the next signal, or zero where nothing counts. -/
def bumped (count : Option UInt64) : UInt64 :=
  match count with
  | some seq => seq + 1
  | none => 0

/-- The hooks of a logging operator of this name.  `itemText` is how items are written.  What the
hooks write is left as a note, which `note` makes of it; the seed leaves the note `quiet`. -/
def Hooks.logged {ω ν α : Type} (name : String) (itemText : α → String) (quiet : ν)
    (note : LogEntry → ν) : Hooks ω ν α UInt64 where
  seed := some fun env => { result := .ok 0, note := quiet, env }
  next := some fun item count env =>
    { effect := (· + 1)
      failure := .none
      note := note (.next name (bumped count) (itemText item))
      env }
  error := some fun error count env =>
    { effect := (· + 1)
      failure := .none
      note := note (.error name (bumped count) error.text)
      env }
  complete := some fun count env =>
    { effect := (· + 1)
      failure := .none
      note := note (.complete name (bumped count))
      env }

end SignalPeek
