import SignalPeek.Phase
import SignalPeek.Text.Quoted

/-!
# Probes

What an observer sees of a layer without touching it: its name, its phase, and the subscription that
it was given.  An observer of a whole stack has one probe for each layer.
-/

namespace SignalPeek

/-- The view of one layer. -/
structure Probe where
  name : String
  phase : Phase
  parent : Option Subscription
  deriving DecidableEq, Repr

namespace Probe

/-- Whether the layer has ended. -/
def terminated (probe : Probe) : Bool :=
  probe.phase == .terminated

/-- What the probe shows, less the name. -/
def standing (probe : Probe) : Standing :=
  { phase := probe.phase, parent := probe.parent }

/-- The detailed form of a probe; of the parent it tells only that there is one. -/
def detail (probe : Probe) : String :=
  "Probe \x7b name: " ++ Text.quoted probe.name ++ ", phase: " ++ probe.phase.name ++
    ", subscribed: " ++ Text.truth probe.parent.isSome ++ " \x7d"

end Probe

end SignalPeek
