import SignalPeek.Probe
import SignalPeek.Trace

/-!
# Subscribers

Whatever signals can be sent to: a consumer, or a layer together with everything below it.  A
subscriber is a machine.  It takes a signal in some state and comes to an `Outcome`: the state
afterwards, the trace of all that happened meanwhile, and the fatal error that escaped, if one did.

A fatal error is returned at once.  So outcomes are put one after the other by `Outcome.andThen`,
which goes on only where nothing escaped, and `Subscriber.receiveAll` sends signals until the first
one that lets a fatal error escape.

`ω` is what the hooks of a run share, `ν` the type of their notes and `α` that of the items.
-/

namespace SignalPeek

/-- What sending a signal comes to, for a subscriber with states of type `τ`. -/
structure Outcome (ω ν α τ : Type) where
  state : τ
  env : ω
  trace : List (Moment ν α)
  escaped : Option Fatal

namespace Outcome

variable {ω ν α τ τ' : Type}

/-- Nothing happened. -/
def idle (state : τ) (env : ω) : Outcome ω ν α τ :=
  { state, env, trace := [], escaped := none }

/-- Puts a trace in front. -/
def precededBy (trace : List (Moment ν α)) (outcome : Outcome ω ν α τ) : Outcome ω ν α τ :=
  { outcome with trace := trace ++ outcome.trace }

/-- Goes on from an outcome, unless a fatal error escaped. -/
def andThen (first : Outcome ω ν α τ) (rest : τ → ω → Outcome ω ν α τ) : Outcome ω ν α τ :=
  match first.escaped with
  | some _ => first
  | none => (rest first.state first.env).precededBy first.trace

/-- Nothing follows an escape. -/
theorem andThen_of_escaped {first : Outcome ω ν α τ} {fatal : Fatal}
    (h : first.escaped = some fatal) (rest : τ → ω → Outcome ω ν α τ) :
    first.andThen rest = first := by
  simp [andThen, h]

/-- Without an escape the rest follows, and so does its trace. -/
theorem andThen_of_not_escaped {first : Outcome ω ν α τ} (h : first.escaped = none)
    (rest : τ → ω → Outcome ω ν α τ) :
    first.andThen rest = (rest first.state first.env).precededBy first.trace := by
  simp [andThen, h]

/-- The same outcome for a machine that sees less, or more, of the state. -/
def mapState (f : τ → τ') (outcome : Outcome ω ν α τ) : Outcome ω ν α τ' :=
  { state := f outcome.state
    env := outcome.env
    trace := outcome.trace
    escaped := outcome.escaped }

end Outcome

/-- A machine that takes signals. -/
structure Subscriber (ω ν α : Type) : Type 1 where
  /-- What the machine remembers. -/
  State : Type
  /-- The state before the first signal. -/
  init : State
  /-- The views of the layers that belong to the machine, the first layer in front. -/
  probes : State → List Probe
  /-- The subscription that the consumer at the end holds, if it was given one. -/
  handle : State → Option Subscription
  /-- Takes a signal. -/
  receive : Signal α → State → ω → Outcome ω ν α State

namespace Subscriber

variable {ω ν α : Type} (S : Subscriber ω ν α)

/-- The standings of the layers that belong to the machine, the first layer in front. -/
def standings (state : S.State) : List Standing :=
  (S.probes state).map Probe.standing

/-- Takes signals in order, up to the first that lets a fatal error escape. -/
def receiveAll : List (Signal α) → S.State → ω → Outcome ω ν α S.State
  | [], state, env => .idle state env
  | signal :: signals, state, env => (S.receive signal state env).andThen (receiveAll signals)

/-- What happens when the consumer makes a call on its handle between signals.  No state changes.
Nothing comes back when the consumer holds no handle. -/
def call? (call : Call) (state : S.State) : Option (List (Moment ν α)) :=
  (S.handle state).map fun handle =>
    (handle.called [call]).map fun event =>
      { layer := (S.standings state).length, standings := S.standings state, event }

end Subscriber

end SignalPeek
