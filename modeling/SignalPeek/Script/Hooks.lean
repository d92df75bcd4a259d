import SignalPeek.Fault.Companion
import SignalPeek.Fault.Severity
import SignalPeek.Layer.Logged
import SignalPeek.Script.Item

/-!
# Scripted hooks

Hooks that follow a script.  Their state is a whole number.  A hook adds to it, and then looks
through its rules for the first one that applies; without one it succeeds, and with one it fails
in the way that the rule says.  What it added stays also when it fails.

**Calls.**  A rule may ask for a certain call of the hook.  Calls are counted for each hook of each
operator, over all subscriptions of the operator, so the count belongs to what hooks share
(`World`), together with the supply of identities for the causes that hooks make.

**Ways of failing.**  The hooks for the seed, for items and for completion fail with a failure that
the script made before.  The hook for errors can also give back, in several forms, the error that it
was shown (`Retort`).
-/

namespace SignalPeek.Script

/-- The four hooks of an operator. -/
inductive Slot where
  | seed
  | next
  | error
  | complete
  deriving DecidableEq, Repr

/-- What scripted hooks share: the runs so far, each by operator and hook, and the next unused
identity. -/
structure World where
  runs : List (Nat × Slot)
  next : Ident

/-- The world before any hook has run. -/
def World.start (next : Ident) : World := { runs := [], next }

/-- The number of the call that a hook is about to make, counted from one. -/
def World.call (world : World) (operator : Nat) (slot : Slot) : Nat :=
  world.runs.count (operator, slot) + 1

/-- The world after one more run of a hook, which may have used up an identity. -/
def World.after (world : World) (operator : Nat) (slot : Slot) : World :=
  { runs := (operator, slot) :: world.runs, next := world.next + 1 }

/-- The note that a hook leaves. -/
inductive Note where
  /-- A scripted hook made this call and left this state. -/
  | counted (call : Nat) (state : Option Int)
  /-- A logging hook wrote this entry. -/
  | entry (entry : LogEntry)
  /-- Nothing to tell. -/
  | quiet

/-- A rule by which a hook fails in the way `φ`.  A condition that is absent holds. -/
structure Rule (φ : Type) where
  call : Option Nat
  item : Option Item
  state : Option Int
  failure : φ

/-- Whether a condition holds of what a hook sees, which may be nothing. -/
def meets {τ : Type} [DecidableEq τ] (condition seen : Option τ) : Bool :=
  condition.isNone || condition == seen

/-- Whether a rule applies to a call on an item in a state. -/
def Rule.applies {φ : Type} (rule : Rule φ) (call : Nat) (item : Option Item) (state : Option Int) :
    Bool :=
  meets rule.call (some call) && meets rule.item item && meets rule.state state

/-- The script of one hook. -/
structure HookBody (φ : Type) where
  /-- What is added to the state. -/
  add : Int
  /-- Whether an item that is a number is added as well. -/
  addItem : Bool
  rules : List (Rule φ)

/-- The script of a seed. -/
structure SeedBody where
  state : Int
  body : HookBody HookError

/-- How the hook for errors fails. -/
inductive Retort where
  /-- With this failure. -/
  | given (failure : HookError)
  /-- With the error itself. -/
  | rethrow
  /-- With the head cause of the error. -/
  | rethrowCause
  /-- With the head cause, for good. -/
  | bubble
  /-- With the whole error stored in a cause, for good. -/
  | bubbleStream
  /-- With another error, behind which the error is put. -/
  | suppressInto (error : StreamError)

/-- The failure of a retort to an error.  At most one cause is made, with the given identity. -/
def Retort.failure (next : Ident) (error : StreamError) : Retort → HookError
  | .given failure => failure
  | .rethrow => .ofStream next error
  | .rethrowCause => .propagate error.cause
  | .bubble => .bubble error.cause
  | .bubbleStream => .bubble (.mk next (.stream error))
  | .suppressInto head => .ofStream next (head.withSuppressed error)

namespace HookBody

variable {φ : Type} (body : HookBody φ)

/-- What the hook adds to the state when it is shown an item, or none. -/
def amount (item : Option Item) : Int :=
  match item with
  | some (.int value) => if body.addItem then body.add + value else body.add
  | _ => body.add

/-- The way in which the hook fails, if it does. -/
def fault (call : Nat) (item : Option Item) (state : Option Int) : Option φ :=
  (body.rules.find? (·.applies call item state)).map Rule.failure

/-- One run of the hook of an operator.  `failure` makes the failure of the way of failing. -/
def run (operator : Nat) (slot : Slot) (failure : Ident → φ → HookError) (item : Option Item)
    (state : Option Int) (world : World) : Reply World Note Int :=
  let call := world.call operator slot
  let left := state.map (· + body.amount item)
  { effect := (· + body.amount item)
    failure := (body.fault call item left).map (failure world.next)
    note := .counted call left
    env := world.after operator slot }

end HookBody

/-- The run of the seed of an operator. -/
def SeedBody.run (seed : SeedBody) (operator : Nat) (world : World) : Seeding World Note Int :=
  let call := world.call operator .seed
  let state := seed.state + seed.body.amount none
  { result := match seed.body.fault call none (some state) with
      | some failure => .error failure
      | none => .ok state
    note := .counted call (some state)
    env := world.after operator .seed }

/-- The script of the hooks of an operator. -/
structure HookScript where
  seed : Option SeedBody
  next : Option (HookBody HookError)
  error : Option (HookBody Retort)
  complete : Option (HookBody HookError)

/-- The scripted hook for items. -/
def nextHook (operator : Nat) (body : HookBody HookError) (item : Item) (state : Option Int)
    (world : World) : Reply World Note Int :=
  body.run operator .next (fun _ failure => failure) (some item) state world

/-- The scripted hook for errors. -/
def errorHook (operator : Nat) (body : HookBody Retort) (error : StreamError) (state : Option Int)
    (world : World) : Reply World Note Int :=
  body.run operator .error (fun next retort => retort.failure next error) none state world

/-- The scripted hook for completion. -/
def completeHook (operator : Nat) (body : HookBody HookError) (state : Option Int) (world : World) :
    Reply World Note Int :=
  body.run operator .complete (fun _ failure => failure) none state world

/-- The hooks of the operator of this number. -/
def HookScript.hooks (script : HookScript) (operator : Nat) : Hooks World Note Item Int where
  seed := script.seed.map fun seed => seed.run operator
  next := script.next.map (nextHook operator)
  error := script.error.map (errorHook operator)
  complete := script.complete.map (completeHook operator)

end SignalPeek.Script
