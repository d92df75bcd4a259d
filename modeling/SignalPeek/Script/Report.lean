import SignalPeek.Script.Hooks

/-!
# Reports

A report is the part of a trace that a script asks to see, one `Line` for each event that counts.
Signals are shown where they reach a scripted consumer, calls where they reach a subscription that
the script gave a name to, and hooks where they are scripted; whatever is logged is shown as a
record.
-/

namespace SignalPeek.Script

/-- What one line of a report shows. -/
inductive Line where
  | log (record : Record)
  | hook (layer call : Nat) (state : Option Int) (occasion : Occasion Item) (fails : Bool)
  | down (consumer : Nat) (signal : Signal Item)
  | up (name : String) (call : Call)
  | dropped (layer : Nat) (sink : String) (error : StreamError)
  | swallowed (fatal : Fatal)

/-- A line, with the standings of all layers at that instant. -/
structure Entry where
  line : Line
  standings : List Standing

/-- How a trace is read. -/
structure View where
  /-- The number of layers, which is the place of the consumer. -/
  depth : Nat
  /-- The number of the operator that layer `0` belongs to. -/
  first : Nat
  /-- The number of the consumer, if its signals are shown. -/
  consumer : Option Nat
  /-- The names of the subscriptions by channel. -/
  names : List String

/-- What a run of a hook shows. -/
def runLine? (layer : Nat) (run : HookRun Note Item) : Option Line :=
  match run.note with
  | .counted call state => some (.hook layer call state run.occasion run.failure.isSome)
  | .entry entry => some (.log entry.record)
  | .quiet => none

/-- What an event at a layer shows. -/
def View.line? (view : View) (layer : Nat) : Event Note Item → Option Line
  | .received signal =>
    if layer = view.depth then view.consumer.map (.down · signal) else none
  | .hook run => runLine? (view.first + layer) run
  | .notice operator notice => some (.log (notice.record operator))
  | .sunk sink error => some (.dropped (view.first + layer) sink error)
  | .called channel call => view.names[channel]?.map (.up · call)
  | .failed _ => none
  | .tolerated fatal => some (.swallowed fatal)

/-- The report on a trace. -/
def View.report (view : View) (trace : List (Moment Note Item)) : List Entry :=
  trace.filterMap fun moment =>
    (view.line? moment.layer moment.event).map fun line => { line, standings := moment.standings }

end SignalPeek.Script
