import SignalPeek.Notice

/-!
# Traces

A run is described by the list of everything that happened in it, in order.  An `Event` is one such
happening, and a `Moment` is an event together with the place where it happened and the standings of
all layers at that instant.

Layers are counted from the source: layer `0` is the one that the source signals to, and the number
after the last layer belongs to the consumer.  A trace is put together from the inside out, so a
layer counts its own events as layer `0` and moves the events below it one further down
(`Moment.beneath`).

`ν` is the type of the notes that hooks leave, and `α` the type of the items.
-/

namespace SignalPeek

/-- What a hook is called for, with what it is shown. -/
inductive Occasion (α : Type) where
  | seed
  | next (item : α)
  | error (error : StreamError)
  | complete

/-- One run of a hook: what for, how it failed if it did, and the note that it left. -/
structure HookRun (ν α : Type) where
  occasion : Occasion α
  failure : Option HookError
  note : ν

/-- Something that happened. -/
inductive Event (ν α : Type) where
  /-- A signal arrived. -/
  | received (signal : Signal α)
  /-- A hook ran. -/
  | hook (run : HookRun ν α)
  /-- The operator of this name gave notice. -/
  | notice (operator : String) (notice : Notice)
  /-- An error that could not be delivered was given to the sink of this name. -/
  | sunk (sink : String) (error : StreamError)
  /-- The subscription on this channel was called. -/
  | called (channel : Nat) (call : Call)
  /-- The consumer answered with a fatal error. -/
  | failed (fatal : Fatal)
  /-- A source put up with a fatal error. -/
  | tolerated (fatal : Fatal)

/-- An event, the layer it happened at, and the standings of the layers from there on down. -/
structure Moment (ν α : Type) where
  layer : Nat
  standings : List Standing
  event : Event ν α

namespace Moment

variable {ν α : Type}

/-- The moment as seen from one layer up, which has the given standing. -/
def beneath (above : Standing) (moment : Moment ν α) : Moment ν α where
  layer := moment.layer + 1
  standings := above :: moment.standings
  event := moment.event

/-- A view from further up shows the same event. -/
@[simp] theorem event_beneath (above : Standing) (moment : Moment ν α) :
    (moment.beneath above).event = moment.event := rfl

/-- The call on this channel that a moment shows. -/
def callTo? (channel : Nat) (moment : Moment ν α) : Option Call :=
  match moment.event with
  | .called p call => if p = channel then some call else none
  | _ => none

/-- The signal that arrived at this layer at a moment. -/
def signalAt? (layer : Nat) (moment : Moment ν α) : Option (Signal α) :=
  match moment.event with
  | .received signal => if moment.layer = layer then some signal else none
  | _ => none

end Moment

/-- The calls that reach a channel in the course of a trace. -/
def callsTo {ν α : Type} (channel : Nat) (trace : List (Moment ν α)) : List Call :=
  trace.filterMap (·.callTo? channel)

/-- The signals that arrive at a layer in the course of a trace. -/
def signalsAt {ν α : Type} (layer : Nat) (trace : List (Moment ν α)) : List (Signal α) :=
  trace.filterMap (·.signalAt? layer)

/-- The calls of two traces one after the other. -/
@[simp] theorem callsTo_append {ν α : Type} (channel : Nat) (first second : List (Moment ν α)) :
    callsTo channel (first ++ second) = callsTo channel first ++ callsTo channel second := by
  simp [callsTo]

/-- The signals of two traces one after the other. -/
@[simp] theorem signalsAt_append {ν α : Type} (layer : Nat) (first second : List (Moment ν α)) :
    signalsAt layer (first ++ second) = signalsAt layer first ++ signalsAt layer second := by
  simp [signalsAt]

/-- Which calls reach a channel does not depend on the layer that one looks from. -/
@[simp] theorem callsTo_map_beneath {ν α : Type} (channel : Nat) (above : Standing)
    (trace : List (Moment ν α)) :
    callsTo channel (trace.map (·.beneath above)) = callsTo channel trace := by
  simp only [callsTo, List.filterMap_map]
  rfl

/-- A layer lies one further down when one looks from one layer up. -/
@[simp] theorem signalsAt_succ_map_beneath {ν α : Type} (layer : Nat) (above : Standing)
    (trace : List (Moment ν α)) :
    signalsAt (layer + 1) (trace.map (·.beneath above)) = signalsAt layer trace := by
  have h : (fun moment : Moment ν α => (moment.beneath above).signalAt? (layer + 1)) =
      (·.signalAt? layer) := by
    funext moment
    simp only [Moment.signalAt?, Moment.beneath, Nat.add_right_cancel_iff]
  rw [signalsAt, List.filterMap_map]
  exact congrArg (List.filterMap · trace) h

/-- Nothing that happens below a layer is a signal to the layer. -/
@[simp] theorem signalsAt_zero_map_beneath {ν α : Type} (above : Standing)
    (trace : List (Moment ν α)) : signalsAt 0 (trace.map (·.beneath above)) = [] := by
  simp only [signalsAt, List.filterMap_map, List.filterMap_eq_nil_iff]
  intro moment _
  simp only [Function.comp, Moment.signalAt?, Moment.beneath]
  split <;> simp

/-- The events of calling a subscription: one for each call, unless the calls end nowhere. -/
def Subscription.called {ν α : Type} (subscription : Subscription) (calls : List Call) :
    List (Event ν α) :=
  match subscription.channel? with
  | some channel => calls.map (.called channel)
  | none => []

end SignalPeek
