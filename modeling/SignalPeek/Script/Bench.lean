import SignalPeek.Layer.Introspection
import SignalPeek.Demand
import SignalPeek.Script.Consumer
import SignalPeek.Script.Report

/-!
# The bench

A stack of layers under test, with a scripted consumer at the end.  The bench takes the place of the
source: it sends signals to the outermost layer in any order, legal or not, makes calls on the
consumer's handle, and asks questions.

Subscriptions are known to a script by name, and a name that was used before stands for the same
subscription.  The n-th new name gets channel n, and what was requested on a channel is read off
the trace of everything so far.
-/

namespace SignalPeek.Script

/-- The script of one layer. -/
structure LayerScript where
  hooks : HookScript
  config : Config

/-- The layer of this number. -/
def LayerScript.layer (script : LayerScript) (number : Nat) : Layer World Note Item :=
  { State := Int, hooks := script.hooks.hooks number, config := script.config }

/-- What a bench is set up with: the outermost layer, the layers below it, and the consumer. -/
structure Setup where
  outer : LayerScript
  inner : List LayerScript
  reactions : List ReactionRule
  /-- The next unused identity. -/
  next : Ident

namespace Setup

variable (setup : Setup)

/-- Everything below the outermost layer. -/
def actual : Subscriber World Note Item :=
  Layer.stack (setup.inner.mapIdx fun k script => script.layer (k + 1))
    (consumer setup.reactions).subscriber

/-- The stack under test. -/
def machine : Subscriber World Note Item :=
  Layer.onto { State := Int, hooks := setup.outer.hooks.hooks 0, config := setup.outer.config }
    setup.actual

end Setup

/-- The bench in the course of a script. -/
structure Bench (setup : Setup) where
  session : Session Int
  below : setup.actual.State
  world : World
  /-- The names of the subscriptions, by channel. -/
  names : List String
  /-- All that happened so far. -/
  history : List (Moment Note Item)

/-- One move of a script. -/
inductive Move where
  | subscribe (name : String)
  | next (item : Item)
  | error (error : StreamError)
  | complete
  | call (call : Call)
  | demand (name : String)
  | scan (attr : Attr)
  | probe (layer : Nat)

/-- The answer to a question, as far as a script can see it.  A subscription is shown by its name.
-/
inductive Finding where
  | parent (name : Option String)
  /-- The layer is on top of what it was made with. -/
  | actual
  | terminated (ended : Bool)
  | name (name : String)

/-- What a move came to. -/
inductive Result where
  | done
  | escaped (fatal : Fatal)
  | noHandle
  | demand (demand : Option Demand)
  | scanned (attr : Attr) (finding : Finding) (terminated : Option Bool)
  | probed (probe : Option Probe)

namespace Bench

variable {setup : Setup}

/-- The bench before the first move. -/
def start (setup : Setup) : Bench setup :=
  { session := .fresh
    below := setup.actual.init
    world := .start setup.next
    names := []
    history := [] }

/-- The state of the stack under test. -/
def state (bench : Bench setup) : setup.machine.State := (bench.session, bench.below)

/-- The views of all layers. -/
def probes (bench : Bench setup) : List Probe := setup.machine.probes bench.state

/-- The channel of the subscription of this name, and the names once it is in use. -/
def channelOf (bench : Bench setup) (name : String) : Nat × List String :=
  match bench.names.idxOf? name with
  | some channel => (channel, bench.names)
  | none => (bench.names.length, bench.names ++ [name])

/-- Sends a signal to the outermost layer. -/
def send (bench : Bench setup) (signal : Signal Item) :
    Bench setup × Result × List (Moment Note Item) :=
  let outcome := setup.machine.receive signal bench.state bench.world
  let state : Session Int × setup.actual.State := outcome.state
  ({ bench with
      session := state.1
      below := state.2
      world := outcome.env
      history := bench.history ++ outcome.trace },
    match outcome.escaped with
    | some fatal => .escaped fatal
    | none => .done,
    outcome.trace)

/-- The demand on the subscription of a name that is in use. -/
def demandOn (bench : Bench setup) (name : String) : Option Demand :=
  (bench.names.idxOf? name).map fun channel => Demand.start.afterAll (callsTo channel bench.history)

/-- What the answer to a question shows. -/
def finding {ρ : Type} (names : List String) : Scanned ρ → Finding
  | .parent parent => .parent (parent.bind Subscription.channel? |>.bind (names[·]?))
  | .actual _ => .actual
  | .terminated ended => .terminated ended
  | .name name => .name name

/-- Makes one move. -/
def move (bench : Bench setup) : Move → Bench setup × Result × List (Moment Note Item)
  | .subscribe name =>
    let (channel, names) := bench.channelOf name
    send { bench with names } (.subscribe (.direct channel))
  | .next item => bench.send (.next item)
  | .error error => bench.send (.error error)
  | .complete => bench.send .complete
  | .call call =>
    match setup.machine.call? call bench.state with
    | some trace => ({ bench with history := bench.history ++ trace }, .done, trace)
    | none => (bench, .noHandle, [])
  | .demand name => (bench, .demand (bench.demandOn name), [])
  | .scan attr =>
    let scanned := bench.session.scan setup.outer.config bench.below attr
    (bench, .scanned attr (finding bench.names scanned) scanned.terminated?, [])
  | .probe layer => (bench, .probed bench.probes[layer]?, [])

end Bench

/-- The report on one move: what it came to, what happened, and where the stack stands afterwards.
-/
structure MoveReport where
  result : Result
  entries : List Entry
  outer : Probe
  state : Option Int
  standings : List Standing

/-- Makes moves in order, with a report on each. -/
def Bench.play {setup : Setup} (bench : Bench setup) : List Move → List MoveReport
  | [] => []
  | move :: moves =>
    let (after, result, trace) := bench.move move
    let view : View :=
      { depth := setup.inner.length + 1, first := 0, consumer := some 0, names := after.names }
    { result
      entries := view.report trace
      outer := after.session.probe setup.outer.config
      state := after.session.state?
      standings := setup.machine.standings after.state } :: after.play moves

/-- Plays a script from the beginning. -/
def Setup.play (setup : Setup) (moves : List Move) : List MoveReport :=
  (Bench.start setup).play moves

end SignalPeek.Script
