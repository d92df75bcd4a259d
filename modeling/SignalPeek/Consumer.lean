import SignalPeek.Subscriber

/-!
# Consumers

The end of a stack.  A consumer answers each signal with calls on the subscription that it holds,
and may let a fatal error escape after them.  It holds the subscription of the latest subscribe
signal; before the first one its calls reach nothing.

What a consumer does is a function of its own state and the signal.  It has no part in what the
hooks share.
-/

namespace SignalPeek

/-- What a consumer does about a signal. -/
structure Reaction (τ : Type) where
  state : τ
  /-- The calls that it makes, in order. -/
  calls : List Call
  /-- The fatal error that it returns after its calls. -/
  fatal : Option Fatal

/-- A consumer of items of type `α`. -/
structure Consumer (α : Type) : Type 1 where
  State : Type
  init : State
  react : Signal α → State → Reaction State

namespace Consumer

variable {ω ν α : Type}

/-- The subscription that is held after a signal. -/
def holding (signal : Signal α) (held : Option Subscription) : Option Subscription :=
  match signal with
  | .subscribe subscription => some subscription
  | _ => held

/-- The consumer as a machine that takes signals.  The handle is stored before the reaction, so a
consumer can request within the very signal that brings the subscription. -/
def subscriber (C : Consumer α) : Subscriber ω ν α where
  State := Option Subscription × C.State
  init := (none, C.init)
  probes _ := []
  handle state := state.1
  receive signal state env :=
    let held := holding signal state.1
    let reaction := C.react signal state.2
    let calls := match held with
      | some subscription => subscription.called reaction.calls
      | none => []
    let failures := match reaction.fatal with
      | some fatal => [.failed fatal]
      | none => []
    { state := (held, reaction.state)
      env
      trace := (.received signal :: calls ++ failures).map fun event =>
        { layer := 0, standings := [], event }
      escaped := reaction.fatal }

/-- The consumer that asks for a given amount once it is subscribed, and for nothing more.  It does
not ask at all when the amount is zero. -/
def asking (amount : UInt64) : Consumer α where
  State := Unit
  init := ()
  react signal _ :=
    let calls := match signal with
      | .subscribe _ => if amount == 0 then [] else [.request amount]
      | _ => []
    { state := (), calls, fatal := none }

end Consumer

end SignalPeek
