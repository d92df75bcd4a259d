import SignalPeek.Fault.Basic

/-!
# Severity, and the way a failure takes

A failing hook gives a `HookError`.  Whether it escapes from the call or becomes a signal is decided
by looking at it and one level into it: a failure that says it is fatal is fatal, and so is a
recoverable one that holds a fatal error as its cause.  Everything else is recoverable.

**Normal form.**  A cause is wrapped for delivery at most once (`Cause.normalize`): one that already
holds a stream error is that error again, with its chain.

**Routing.**  `HookError.route` answers with the error to deliver, or with the fatal error to
return.  `HookError.severity` makes the same decision without the answer.

**Roots.**  `Cause.root` goes down through stream errors and fatal errors to the cause that was
there first.  Hook failures and build errors are values like any other and are not entered.
-/

namespace SignalPeek

/-- How a failure must go on. -/
inductive Severity where
  /-- Returned from the call that caused it. -/
  | fatal
  /-- Delivered downstream as one error signal. -/
  | recoverable
  deriving DecidableEq, Repr

/-- The word for a severity. -/
def Severity.name : Severity → String
  | .fatal => "fatal"
  | .recoverable => "recoverable"

/-- The severity of a hook failure. -/
def HookError.severity : HookError → Severity
  | .fatal _ => .fatal
  | .recoverable (.mk _ (.fatal _)) => .fatal
  | .recoverable _ => .recoverable

/-- The label of a hook failure follows its severity, not its form. -/
def HookError.label (error : HookError) : String :=
  match error.severity with
  | .fatal => "hook_fatal"
  | .recoverable => "hook_failed"

/-- A cause made ready for delivery: wrapped, unless it holds a stream error already. -/
def Cause.normalize : Cause → StreamError
  | .mk _ (.stream error) => error
  | cause => .lone cause

/-- Where a failure goes: the error to deliver, or the fatal error to return. -/
def HookError.route : HookError → Except Fatal StreamError
  | .fatal f => .error f
  | .recoverable (.mk _ (.fatal f)) => .error f
  | .recoverable cause => .ok cause.normalize

/-- Severity and route agree: a failure is fatal exactly if a fatal error comes of it. -/
theorem HookError.severity_eq_fatal_iff {failure : HookError} :
    failure.severity = .fatal ↔ ∃ f, failure.route = .error f := by
  cases failure with
  | fatal f => simp [severity, route]
  | recoverable cause =>
    obtain ⟨ident, content⟩ := cause
    cases content <;> simp [severity, route]

/-- A failure that goes on as an error is recoverable. -/
theorem HookError.severity_of_route {failure : HookError} {error : StreamError}
    (route : failure.route = .ok error) : failure.severity = .recoverable := by
  cases hseverity : failure.severity with
  | recoverable => rfl
  | fatal =>
    obtain ⟨f, hf⟩ := severity_eq_fatal_iff.mp hseverity
    rw [route] at hf
    exact nomatch hf

/-- A value stored in a new cause and made ready for delivery. -/
def StreamError.wrap (ident : Ident) (content : Content) : StreamError :=
  (Cause.mk ident content).normalize

/-- A delivered error that has only a text. -/
def StreamError.ofText (ident : Ident) (text : String) : StreamError :=
  .wrap ident (.message text)

/-! ## Roots -/

mutual

/-- The cause beneath all stream errors and fatal errors. -/
def Cause.root : Cause → Cause
  | .mk _ (.stream error) => error.root
  | .mk _ (.fatal f) => f.root
  | cause => cause

/-- The root of a stream error is that of its head cause. -/
def StreamError.root : StreamError → Cause
  | .lone cause => cause.root
  | .paired cause _ => cause.root

/-- The root of a fatal error. -/
def Fatal.root : Fatal → Cause
  | .mk cause => cause.root

end

/-- Whether the root of an error holds a value of this sort. -/
def StreamError.isOf (error : StreamError) (kind : Kind) : Bool :=
  error.root.content.kind == kind

/-! ## Sources

The chain of reasons that a reader of errors can follow: only a stream error names a reason for
itself, which is its head cause. -/

mutual

/-- The reasons behind a cause. -/
def Cause.sources : Cause → List Cause
  | .mk _ content => content.sources

/-- The reasons behind an error value. -/
def Content.sources : Content → List Cause
  | .stream error => error.sources
  | _ => []

/-- A stream error has its head cause as reason, then the reasons behind that. -/
def StreamError.sources : StreamError → List Cause
  | .lone cause => cause :: cause.sources
  | .paired cause _ => cause :: cause.sources

end

end SignalPeek
