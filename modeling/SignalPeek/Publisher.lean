import SignalPeek.Layer.Basic
import SignalPeek.Source

/-!
# Publishers

What a consumer subscribes to: a source, or an operator on a publisher.  Subscribing to an operator
puts its layer on top of the subscriber and subscribes that to the publisher before, so the layer of
the operator next to the source comes to lie outermost.
-/

namespace SignalPeek

/-- A source with operators on it. -/
inductive Publisher (ω ν α : Type) : Type 1 where
  | source (source : Source α)
  | peek (base : Publisher ω ν α) (layer : Layer ω ν α)

namespace Publisher

variable {ω ν α : Type}

/-- The source at the far end. -/
def root : Publisher ω ν α → Source α
  | .source s => s
  | .peek base _ => base.root

/-- The layers of the operators, the one next to the source in front. -/
def layers : Publisher ω ν α → List (Layer ω ν α)
  | .source _ => []
  | .peek base layer => base.layers ++ [layer]

/-- Subscribes a subscriber in its first state and lets the source run. -/
def subscribe : Publisher ω ν α → (S : Subscriber ω ν α) → ω → Outcome ω ν α S.State
  | .source s, S, env => s.drive S env
  | .peek base layer, S, env => (base.subscribe (layer.onto S) env).mapState Prod.snd

end Publisher

end SignalPeek
