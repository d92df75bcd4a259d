import SignalPeek.Layer.Basic

/-!
# Introspection

What a tool may ask a layer.  There are four questions (`Attr`), and none of them changes anything.
-/

namespace SignalPeek

/-- A question to a layer. -/
inductive Attr where
  /-- The subscription it was given. -/
  | parent
  /-- The subscriber it is on top of. -/
  | actual
  /-- Whether it has ended. -/
  | terminated
  /-- Its name. -/
  | name
  deriving DecidableEq, Repr

/-- The answer to a question.  The subscriber below answers with its state, of type `ρ`. -/
inductive Scanned (ρ : Type) where
  | parent (subscription : Option Subscription)
  | actual (state : ρ)
  | terminated (ended : Bool)
  | name (name : String)

/-- The flag in an answer that is about having ended. -/
def Scanned.terminated? {ρ : Type} : Scanned ρ → Option Bool
  | .terminated ended => some ended
  | _ => none

/-- The answer of a layer, given its session and the state of what is below. -/
def Session.scan {σ ρ : Type} (session : Session σ) (config : Config) (below : ρ) :
    Attr → Scanned ρ
  | .parent => .parent session.parent?
  | .actual => .actual below
  | .terminated => .terminated (session.probe config).terminated
  | .name => .name config.name

end SignalPeek
