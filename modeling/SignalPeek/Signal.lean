import SignalPeek.Fault.Basic

/-!
# Signals, and the calls that go the other way

Signals run downstream, from a source through the layers to a consumer.  Requests and cancellations
run towards the source, along the subscription that came with the first signal.

**Subscriptions.**  A subscription is known by where a call on it ends up.  A call on an inert one
ends nowhere.  A call on a direct one reaches the channel of that number.  A layer hands on a relay
of the subscription that it was given itself, so a call passes through any number of relays and
ends where the innermost one does (`Subscription.channel?`).
-/

namespace SignalPeek

/-- A handle for calls towards the source. -/
inductive Subscription where
  /-- Takes calls and does nothing. -/
  | inert
  /-- The subscription on the channel of this number. -/
  | direct (channel : Nat)
  /-- Passes each call on to the subscription within. -/
  | relay (parent : Subscription)
  deriving DecidableEq, Repr

/-- The channel that calls on a subscription reach, if they reach any. -/
def Subscription.channel? : Subscription → Option Nat
  | .inert => none
  | .direct channel => some channel
  | .relay parent => parent.channel?

/-- Relaying changes nothing about where a call ends up. -/
@[simp] theorem Subscription.channel?_relay (parent : Subscription) :
    (relay parent).channel? = parent.channel? := rfl

/-- A call on a subscription. -/
inductive Call where
  | request (amount : UInt64)
  | cancel
  deriving DecidableEq, Repr

/-- A signal that carries items of type `α`. -/
inductive Signal (α : Type) where
  | subscribe (subscription : Subscription)
  | next (item : α)
  | error (error : StreamError)
  | complete

/-- The four kinds of signal. -/
inductive SignalKind where
  | subscribe
  | next
  | error
  | complete
  deriving DecidableEq, Repr

/-- The kind of a signal. -/
def Signal.kind {α : Type} : Signal α → SignalKind
  | .subscribe _ => .subscribe
  | .next _ => .next
  | .error _ => .error
  | .complete => .complete

/-- The name of a kind of signal, as notices give it. -/
def SignalKind.name : SignalKind → String
  | .subscribe => "on_subscribe"
  | .next => "on_next"
  | .error => "on_error"
  | .complete => "on_complete"

/-- The signals that end a stream. -/
def Signal.isTerminal {α : Type} : Signal α → Bool
  | .error _ | .complete => true
  | .subscribe _ | .next _ => false

end SignalPeek
