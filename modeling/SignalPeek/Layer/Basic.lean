import SignalPeek.Layer.Session
import SignalPeek.Subscriber

/-!
# Layers

A layer puts the hooks of one operator in front of any subscriber.  Together they are a subscriber
again, so layers stack to any height, and what holds of a layer over every subscriber holds at every
height of a stack.

A layer takes its turn, settles, and only then passes anything on.  So everything that happens below
it during a signal happens under one and the same standing of this layer.
-/

namespace SignalPeek

variable {ω ν α : Type}

/-- What makes a layer: hooks with a state of some type, and settings. -/
structure Layer (ω ν α : Type) : Type 1 where
  State : Type
  hooks : Hooks ω ν α State
  config : Config

namespace Layer

/-- The answer of the layer's session to a signal. -/
def turn (layer : Layer ω ν α) (session : Session layer.State) (signal : Signal α) (env : ω) :
    Turn ω ν α layer.State :=
  session.turn layer.hooks layer.config signal env

/-- The events of a turn as moments, above layers with the given standings. -/
def moments (below : List Standing) (events : List (Standing × Event ν α)) : List (Moment ν α) :=
  events.map fun (standing, event) => { layer := 0, standings := standing :: below, event }

/-- The layer on top of a subscriber. -/
def onto (layer : Layer ω ν α) (actual : Subscriber ω ν α) : Subscriber ω ν α where
  State := Session layer.State × actual.State
  init := (.fresh, actual.init)
  probes state := state.1.probe layer.config :: actual.probes state.2
  handle state := actual.handle state.2
  receive signal state env :=
    let turn := layer.turn state.1 signal env
    let own := moments (actual.standings state.2)
      ((state.1.standing, .received signal) :: turn.events)
    match turn.exit with
    | .escape fatal =>
      { state := (turn.session, state.2), env := turn.env, trace := own, escaped := some fatal }
    | .forward signals =>
      let below := actual.receiveAll signals state.2 turn.env
      { state := (turn.session, below.state)
        env := below.env
        trace := own ++ below.trace.map (·.beneath turn.session.standing)
        escaped := below.escaped }

/-- Layers on top of a subscriber, the first of them on the outside. -/
def stack (layers : List (Layer ω ν α)) (actual : Subscriber ω ν α) : Subscriber ω ν α :=
  layers.foldr onto actual

end Layer

end SignalPeek
