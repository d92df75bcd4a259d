import SignalPeek.Fault.Basic
import SignalPeek.Text.Quoted

/-!
# How faults are written

Each error value has two written forms.  Its `text` is meant for a message: a stream error reads as
its head cause does, and a fatal error says so in front.  Its `detail` shows how it is built, with
every companion.

The labels at the end are short fixed words for the same values, for use in logs.
-/

namespace SignalPeek

open Text (quoted)

/-- The text of a build error. -/
def BuildError.text : BuildError → String
  | .missingSource => "source publisher is required"

mutual

/-- The text of a cause is that of the value it holds. -/
def Cause.text : Cause → String
  | .mk _ content => content.text

/-- The text of an error value. -/
def Content.text : Content → String
  | .message text => text
  | .foreign value => value.text
  | .stream error => error.text
  | .fatal f => f.text
  | .hook error => error.text
  | .build error => error.text

/-- A stream error reads as its head cause; companions stay silent. -/
def StreamError.text : StreamError → String
  | .lone cause => cause.text
  | .paired cause _ => cause.text

/-- A fatal error announces itself. -/
def Fatal.text : Fatal → String
  | .mk cause => "fatal: " ++ cause.text

/-- A hook failure reads as what it holds. -/
def HookError.text : HookError → String
  | .fatal f => f.text
  | .recoverable cause => cause.text

end

/-! ## Detailed forms -/

/-- The detailed form of a build error. -/
def BuildError.detail : BuildError → String
  | .missingSource => "MissingSource"

mutual

/-- The detailed form of a cause is that of the value it holds. -/
def Cause.detail : Cause → String
  | .mk _ content => content.detail

/-- The detailed form of an error value. -/
def Content.detail : Content → String
  | .message text => "Message(" ++ quoted text ++ ")"
  | .foreign value => value.detail
  | .stream error => error.detail
  | .fatal f => f.detail
  | .hook error => error.detail
  | .build error => error.detail

/-- A stream error shows its head cause and, within it, the next error of the chain. -/
def StreamError.detail : StreamError → String
  | .lone cause => "StreamError \x7b cause: " ++ cause.detail ++ ", suppressed: None \x7d"
  | .paired cause companion =>
    "StreamError \x7b cause: " ++ cause.detail ++
      ", suppressed: Some(" ++ companion.detail ++ ") \x7d"

/-- The detailed form of a fatal error. -/
def Fatal.detail : Fatal → String
  | .mk cause => "Fatal \x7b cause: " ++ cause.detail ++ " \x7d"

/-- The detailed form of a hook failure names its form. -/
def HookError.detail : HookError → String
  | .fatal f => "Fatal(" ++ f.detail ++ ")"
  | .recoverable cause => "Recoverable(" ++ cause.detail ++ ")"

end

/-! ## Labels -/

/-- The label of a stream error says whether it has company. -/
def StreamError.label : StreamError → String
  | .lone _ => "stream_error"
  | .paired _ _ => "stream_error_with_suppressed"

/-- The label of a build error. -/
def BuildError.label : BuildError → String
  | .missingSource => "build_missing_source"

end SignalPeek
