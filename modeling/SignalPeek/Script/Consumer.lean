import SignalPeek.Consumer
import SignalPeek.Script.Item

/-!
# Scripted consumers

A consumer that follows a list of reactions.  A reaction is for one kind of signal, and it may be
for one occurrence of that kind only.  All reactions to a signal run in order, up to the first that
returns a fatal error.
-/

namespace SignalPeek.Script

/-- What a reaction does. -/
inductive Action where
  | call (call : Call)
  | fatal (fatal : Fatal)

/-- What to do, and when. -/
structure ReactionRule where
  kind : SignalKind
  /-- The occurrence that is meant, counted from one. -/
  occurrence : Option Nat
  action : Action

/-- The calls up to the first fatal error, and that error. -/
def perform : List Action → List Call × Option Fatal
  | [] => ([], none)
  | .call call :: actions =>
    let (calls, fatal) := perform actions
    (call :: calls, fatal)
  | .fatal fatal :: _ => ([], some fatal)

/-- The actions for the given occurrence of a signal. -/
def actionsFor (rules : List ReactionRule) (kind : SignalKind) (occurrence : Nat) : List Action :=
  rules.filterMap fun rule =>
    if rule.kind == kind && (rule.occurrence.isNone || rule.occurrence == some occurrence) then
      some rule.action
    else none

/-- The consumer with these reactions.  It remembers the kinds of the signals that it received. -/
def consumer (rules : List ReactionRule) : Consumer Item where
  State := List SignalKind
  init := []
  react signal received :=
    let kind := signal.kind
    let (calls, fatal) := perform (actionsFor rules kind (received.count kind + 1))
    { state := kind :: received, calls, fatal }

end SignalPeek.Script
