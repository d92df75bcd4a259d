import SignalPeek.Fault.Severity

/-!
# Wrapping a cause in layers

Stores a cause in one error value after another.  Each layer makes a new cause, and there are four
kinds of layer: made ready for delivery, marked fatal, or given back by a hook in one of its two
forms.  Only the first kind can leave the nesting as deep as it was, since a cause that is ready for
delivery is not wrapped again.
-/

namespace SignalPeek

/-- One layer around a cause. -/
inductive Wrapping where
  | stream
  | fatal
  | bubble
  | propagate
  deriving DecidableEq, Repr

/-- The value that a layer makes of a cause. -/
def Wrapping.content (layer : Wrapping) (cause : Cause) : Content :=
  match layer with
  | .stream => .stream cause.normalize
  | .fatal => .fatal (.mk cause)
  | .bubble => .hook (.bubble cause)
  | .propagate => .hook (.propagate cause)

/-- The cause inside all layers, the first layer innermost.  Each layer takes the next unused
identity. -/
def Cause.wrapAll (cause : Cause) : Ident → List Wrapping → Cause
  | _, [] => cause
  | next, layer :: layers => (Cause.mk next (layer.content cause)).wrapAll (next + 1) layers

end SignalPeek
