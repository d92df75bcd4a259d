import Mathlib.Tactic.Common
import SignalPeek.Fault.Companion
import SignalPeek.Fault.Text
import SignalPeek.Proofs.Provenance

/-!
# Routing keeps the error

A failure is classified (`HookError.severity`) and routed (`HookError.route`) by two definitions of
their own.  They agree, and what comes out of a route is what was in the failure, however deep its
causes are nested.

**Fatal errors.**  The fatal error of a route is the one that the failure is or has for a cause
(`route_eq_error_iff`), and reads as the failure does.

**Stream errors.**  Making a cause ready changes neither its text nor its root, and a cause that
holds a stream error is that error again (`Cause.normalize`).  So an error for delivery reads as the
failure and has its root, and a stream error that is given back keeps its whole chain.
-/

namespace SignalPeek

/-! ## Heads -/

lemma StreamError.text_eq (e : StreamError) : e.text = e.cause.text := by
  cases e <;> rw [text, cause]

lemma StreamError.root_eq (e : StreamError) : e.root = e.cause.root := by
  cases e <;> rw [root, cause]

/-! ## Causes made ready -/

lemma Cause.text_normalize (cause : Cause) : cause.normalize.text = cause.text := by
  obtain ⟨ident, content⟩ := cause
  cases content <;> simp [normalize, StreamError.text, Cause.text, Content.text]

lemma Cause.root_normalize (cause : Cause) : cause.normalize.root = cause.root := by
  obtain ⟨ident, content⟩ := cause
  cases content <;> simp [normalize, StreamError.root, Cause.root]

lemma Cause.normalize_of_stream {cause : Cause} {given : StreamError}
    (stored : cause.content = .stream given) : cause.normalize = given := by
  obtain ⟨ident, content⟩ := cause
  obtain rfl : content = .stream given := stored
  rfl

/-! ## Failures -/

namespace HookError

variable {failure : HookError}

lemma recoverable_of_route {error : StreamError} (route : failure.route = .ok error) :
    ∃ cause, failure = .recoverable cause ∧ error = cause.normalize := by
  cases failure with
  | fatal fatal => exact nomatch route
  | recoverable cause =>
      obtain ⟨ident, content⟩ := cause
      refine ⟨.mk ident content, rfl, ?_⟩
      cases content <;> first | exact (Except.ok.inj route).symm | simp [HookError.route] at route

/-- A failure is recoverable exactly if an error for delivery comes of it. -/
lemma severity_eq_recoverable_iff :
    failure.severity = .recoverable ↔ ∃ error, failure.route = .ok error := by
  constructor
  · intro mild
    cases route : failure.route with
    | ok error => exact ⟨error, rfl⟩
    | error fatal =>
        have grave := severity_eq_fatal_iff.mpr ⟨fatal, route⟩
        rw [mild] at grave
        cases grave
  · rintro ⟨error, route⟩
    exact severity_of_route route

/-- What is delivered for a recoverable failure is its cause, made ready. -/
lemma route_of_recoverable (mild : failure.severity = .recoverable) :
    failure.route = .ok failure.cause.normalize := by
  obtain ⟨error, route⟩ := severity_eq_recoverable_iff.mp mild
  obtain ⟨cause, rfl, rfl⟩ := recoverable_of_route route
  exact route

/-- **The fatal error of a route** is the one that the failure holds. -/
lemma route_eq_error_iff {fatal : Fatal} :
    failure.route = .error fatal ↔ failure.Holds fatal := by
  constructor
  · exact holds_of_route
  · intro holds
    cases holds <;> rfl

lemma Holds.text_eq {fatal : Fatal} (holds : failure.Holds fatal) : fatal.text = failure.text := by
  cases holds with
  | itself => rw [HookError.text]
  | erased ident => rw [HookError.text, Cause.text, Content.text]

/-- **What an error keeps** of the failure that it is delivered for. -/
structure Preserved (failure : HookError) (error : StreamError) : Prop where
  text : error.text = failure.text
  root : error.root = failure.cause.root
  /-- A stream error that a hook gives back is delivered with the cause and the chain it has. -/
  chain : ∀ given, failure.cause.content = .stream given →
    error.cause = given.cause ∧ error.companions = given.companions

lemma preserved_of_route {error : StreamError} (route : failure.route = .ok error) :
    failure.Preserved error := by
  obtain ⟨cause, rfl, rfl⟩ := recoverable_of_route route
  refine ⟨?text, cause.root_normalize, ?chain⟩
  case text => rw [cause.text_normalize, HookError.text]
  case chain =>
    intro given stored
    have again : cause.normalize = given := Cause.normalize_of_stream stored
    exact ⟨congrArg StreamError.cause again, congrArg StreamError.companions again⟩

/-- **Severity and route agree, and the route keeps what the failure holds.**  A fatal failure is
routed to a fatal error, and it is the one that the failure is or has for a cause.  A recoverable
one is routed to an error with its root and, if a stream error was given back, with the chain of
that.  Either way the text stays. -/
theorem route_faithful (failure : HookError) :
    (failure.severity = .fatal ↔ ∃ fatal, failure.route = .error fatal)
      ∧ (failure.severity = .recoverable ↔ ∃ error, failure.route = .ok error)
      ∧ (∀ fatal, failure.route = .error fatal ↔ failure.Holds fatal)
      ∧ (∀ fatal, failure.route = .error fatal → fatal.text = failure.text)
      ∧ ∀ error, failure.route = .ok error → failure.Preserved error :=
  ⟨severity_eq_fatal_iff, severity_eq_recoverable_iff, fun _ => route_eq_error_iff,
    fun _ route => (route_eq_error_iff.mp route).text_eq, fun _ route => preserved_of_route route⟩

/-- Two failures around one error of two causes, whose head is a fatal error.  The first gives the
error back and is delivered with both causes.  The second has the fatal error for a cause. -/
theorem route_faithful_nested :
    let root : Cause := .mk 0 (.message "stop")
    let fatal : Fatal := .mk root
    let given : StreamError := .paired (.mk 1 (.fatal fatal)) (.lone (.mk 2 (.message "late")))
    let mild : HookError := .recoverable (.mk 3 (.stream given))
    let grave : HookError := .recoverable given.cause
    (mild.severity = .recoverable ∧ mild.route = .ok given ∧ given.text = "fatal: stop"
        ∧ given.root = root ∧ mild.Preserved given)
      ∧ grave.severity = .fatal ∧ grave.route = .error fatal ∧ grave.Holds fatal
      ∧ fatal.text = grave.text := by
  intro root fatal given mild grave
  obtain ⟨-, hmild, -, -, hpreserved⟩ := route_faithful mild
  obtain ⟨hgrave, -, hholds, htext, -⟩ := route_faithful grave
  have preserved := hpreserved given rfl
  have text : given.text = "fatal: stop" := by
    simp [given, fatal, root, StreamError.text, Cause.text, Content.text, Fatal.text]
  have root_eq : given.root = root := by
    simp [given, fatal, root, StreamError.root, Cause.root, Fatal.root]
  exact ⟨⟨hmild.mpr ⟨given, rfl⟩, rfl, text, root_eq, preserved⟩, hgrave.mpr ⟨fatal, rfl⟩, rfl,
    (hholds fatal).mp rfl, htext fatal rfl⟩

end HookError

end SignalPeek
