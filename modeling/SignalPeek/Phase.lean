import SignalPeek.Signal

/-!
# Phases

The life of one layer's subscription, as it can be seen from outside: the phase, and the parent
subscription once there is one.  The two are kept together as a `Standing`, and a moment in a run
is described by the standings of all its layers.
-/

namespace SignalPeek

/-- Where the subscription of a layer is in its life. -/
inductive Phase where
  /-- Made, and not yet subscribed. -/
  | init
  /-- Subscribed and seeded. -/
  | active
  /-- A terminal signal was passed on, or a fatal error escaped.  Nothing follows. -/
  | terminated
  deriving DecidableEq, Repr

/-- The name of a phase. -/
def Phase.name : Phase → String
  | .init => "Init"
  | .active => "Active"
  | .terminated => "Terminated"

/-- The position of a phase in a life. -/
def Phase.rank : Phase → Nat
  | .init => 0
  | .active => 1
  | .terminated => 2

/-- What is visible of a layer at one moment. -/
structure Standing where
  phase : Phase
  /-- The parent subscription, if it is set. -/
  parent : Option Subscription
  deriving DecidableEq, Repr

/-- A standing as two signs: the first letter of the phase, then a plus sign for a parent that is
set and a minus sign for one that is not. -/
def Standing.signs (standing : Standing) : String :=
  (match standing.phase with
    | .init => "I"
    | .active => "A"
    | .terminated => "T") ++
  (if standing.parent.isSome then "+" else "-")

end SignalPeek
