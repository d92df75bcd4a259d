import SignalPeek.Demand
import SignalPeek.Subscriber

/-!
# Sources

Where signals come from.  A source signals to a subscriber from start to end within one call
(`Source.drive`), and the subscription that it gives out is on channel `0`.

**Demand.**  Only a list of items heeds demand.  Before each item it looks at what was requested on
its channel so far: it stops when the subscription is cancelled or nothing is outstanding, and
uses up one unit otherwise.  Requests may arrive while an item is being delivered and count from
then on.  Completion needs no demand, but it is withheld after a cancellation.

**Cues.**  A source may also play a fixed list of signals, whatever is requested.  Such a source can
be tolerant: it then takes note of a fatal error and goes on as if nothing had escaped.
-/

namespace SignalPeek

/-- A source of items of type `α`. -/
inductive Source (α : Type) where
  /-- Delivers these items and completes. -/
  | just (items : List α)
  /-- Completes at once. -/
  | empty
  /-- Subscribes and says nothing more. -/
  | never
  /-- Fails at once. -/
  | failing (error : StreamError)
  /-- Plays these signals. -/
  | cued (signals : List (Signal α)) (tolerant : Bool)

namespace Source

variable {ω ν α : Type} (S : Subscriber ω ν α)

/-- Delivers items as far as demand goes, then completes. -/
def deliver : List α → Demand → S.State → ω → Outcome ω ν α S.State
  | [], demand, state, env =>
    if demand.cancelled then .idle state env else S.receive .complete state env
  | item :: items, demand, state, env =>
    match demand.take? with
    | none => .idle state env
    | some left =>
      let delivery := S.receive (.next item) state env
      delivery.andThen (deliver items (left.afterAll (callsTo 0 delivery.trace)))

/-- Signals while a fatal error is noted and otherwise ignored. -/
def playTolerantly : List (Signal α) → S.State → ω → Outcome ω ν α S.State
  | [], state, env => .idle state env
  | signal :: signals, state, env =>
    let played := S.receive signal state env
    let noted := match played.escaped with
      | some fatal =>
        [{ layer := 0, standings := S.standings played.state, event := .tolerated fatal }]
      | none => []
    (playTolerantly signals played.state played.env).precededBy (played.trace ++ noted)

/-- The signal that opens the subscription on channel `0`. -/
def opening : Signal α := .subscribe (.direct 0)

/-- Signals to a subscriber in its first state. -/
def drive (source : Source α) (env : ω) : Outcome ω ν α S.State :=
  match source with
  | .just items =>
    let opened := S.receive opening S.init env
    opened.andThen (deliver S items (Demand.start.afterAll (callsTo 0 opened.trace)))
  | .empty => S.receiveAll [opening, .complete] S.init env
  | .never => S.receiveAll [opening] S.init env
  | .failing error => S.receiveAll [opening, .error error] S.init env
  | .cued signals tolerant =>
    if tolerant then playTolerantly S signals S.init env else S.receiveAll signals S.init env

end Source

end SignalPeek
