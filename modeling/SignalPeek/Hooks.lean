import SignalPeek.Text.Quoted
import SignalPeek.Trace

/-!
# Hooks

The four places where an operator lets its user look on.  Each hook may be absent.  A hook sees the
signal and the state of its subscription, and it may change the state and may fail; it cannot change
the signal.

A hook never makes the state appear or vanish.  So a reply carries the change as a function on
states (`Reply.effect`), and where there is no state there is nothing to apply it to.

`ω` is whatever hooks share with each other and keep between runs (counters, a supply of
identities), `ν` the type of the notes they leave, `α` that of the items, and `σ` that of the
state.
-/

namespace SignalPeek

/-- What one run of a hook comes to. -/
structure Reply (ω ν σ : Type) where
  /-- What the hook does to the state; it is done also when the hook fails. -/
  effect : σ → σ
  failure : Option HookError
  note : ν
  env : ω

/-- What one run of the seed comes to. -/
structure Seeding (ω ν σ : Type) where
  result : Except HookError σ
  note : ν
  env : ω

/-- The hooks of an operator. -/
structure Hooks (ω ν α σ : Type) where
  seed : Option (ω → Seeding ω ν σ)
  next : Option (α → Option σ → ω → Reply ω ν σ)
  error : Option (StreamError → Option σ → ω → Reply ω ν σ)
  complete : Option (Option σ → ω → Reply ω ν σ)

namespace Hooks

variable {ω ν α σ : Type}

/-- No hook at all. -/
def none : Hooks ω ν α σ :=
  { seed := .none, next := .none, error := .none, complete := .none }

/-- Whether every hook is absent. -/
def isEmpty (hooks : Hooks ω ν α σ) : Bool :=
  hooks.seed.isNone && hooks.next.isNone && hooks.error.isNone && hooks.complete.isNone

/-- The detailed form of the hooks tells which of them are present. -/
def detail (hooks : Hooks ω ν α σ) : String :=
  "Hooks \x7b seed: " ++ Text.truth hooks.seed.isSome ++
    ", on_next: " ++ Text.truth hooks.next.isSome ++
    ", on_error: " ++ Text.truth hooks.error.isSome ++
    ", on_complete: " ++ Text.truth hooks.complete.isSome ++ " \x7d"

end Hooks

/-- The failure of a seeding. -/
def Seeding.failure {ω ν σ : Type} (seeding : Seeding ω ν σ) : Option HookError :=
  match seeding.result with
  | .ok _ => none
  | .error failure => some failure

end SignalPeek
