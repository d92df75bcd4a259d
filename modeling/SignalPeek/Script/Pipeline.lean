import SignalPeek.Operator
import SignalPeek.Script.Consumer
import SignalPeek.Script.Report

/-!
# Scripted pipelines

A pipeline is built in stages, each an operator on the publisher before it, and then consumers
subscribe to its last publisher one after the other.  All subscriptions of a pipeline share the
world of its hooks.

A stage may leave the publisher before it aside and start from a source of its own.  The stages are
numbered all the same, so the outermost layer of a subscription belongs to the first stage after the
source that is really used.
-/

namespace SignalPeek.Script

/-- The publishers of scripted pipelines. -/
abbrev ItemPublisher := Publisher World Note Item

/-! ## Sources -/

/-- A signal of a source that plays a script.  A subscription has a name, but each one is new. -/
inductive Cue where
  | subscribe (name : String)
  | next (item : Item)
  | error (error : StreamError)
  | complete

/-- The signals of cues, with subscriptions on the channels from the given one on. -/
def Cue.signals : Nat → List Cue → List (Signal Item)
  | _, [] => []
  | channel, .subscribe _ :: cues => .subscribe (.direct channel) :: signals (channel + 1) cues
  | channel, .next item :: cues => .next item :: signals channel cues
  | channel, .error e :: cues => .error e :: signals channel cues
  | channel, .complete :: cues => .complete :: signals channel cues

/-- The names of the subscriptions among cues, by channel. -/
def Cue.names (cues : List Cue) : List String :=
  cues.filterMap fun cue =>
    match cue with
    | .subscribe name => some name
    | _ => none

/-- A source, with the names of the subscriptions that it gives out. -/
structure Origin where
  source : Source Item
  names : List String

/-- A source whose subscriptions have no names. -/
def Origin.silent (source : Source Item) : Origin := { source, names := [] }

/-- The source that plays cues. -/
def Origin.ofCues (cues : List Cue) (tolerant : Bool) : Origin :=
  { source := .cued (Cue.signals 0 cues) tolerant, names := Cue.names cues }

/-! ## Stages -/

/-- What a stage is put on. -/
inductive Footing where
  /-- The publisher before it. -/
  | preceding
  /-- A source of its own that completes at once. -/
  | empty
  /-- A source of its own that says nothing. -/
  | never
  deriving DecidableEq, Repr

/-- The publisher that a stage is put on. -/
def Footing.publisher (preceding : ItemPublisher) : Footing → ItemPublisher
  | .preceding => preceding
  | .empty => .source .empty
  | .never => .source .never

/-- One part given to the builder of an operator. -/
inductive Part where
  | source (footing : Footing)
  | seed (body : SeedBody)
  | next (body : HookBody HookError)
  | error (body : HookBody Retort)
  | complete (body : HookBody HookError)
  | config (config : Config)
  | name (name : String)

/-- The builder once it has a further part. -/
def Part.give (number : Nat) (preceding : ItemPublisher) (builder : Builder World Note Item Int) :
    Part → Builder World Note Item Int
  | .source footing => builder.withSource (footing.publisher preceding)
  | .seed body => builder.withSeed (body.run number)
  | .next body => builder.withNext (nextHook number body)
  | .error body => builder.withError (errorHook number body)
  | .complete body => builder.withComplete (completeHook number body)
  | .config settings => builder.withConfig settings
  | .name text => builder.withName text

/-- The footing among parts.  Of several the last one counts. -/
def footing? (parts : List Part) : Option Footing :=
  (parts.filterMap fun part =>
    match part with
    | .source footing => some footing
    | _ => none).getLast?

/-- How one operator is made. -/
inductive StageScript where
  /-- From all hooks at once, with or without a publisher to put it on. -/
  | whole (grounded : Bool) (hooks : HookScript)
  /-- Part by part. -/
  | inParts (parts : List Part)
  /-- As a logging operator. -/
  | logged (name : String)

/-- The operator of a stage. -/
def StageScript.operator (number : Nat) (preceding : ItemPublisher) :
    StageScript → Except BuildError (Operator World Note Item)
  | .whole grounded hooks =>
    Operator.make (if grounded then some preceding else none) (hooks.hooks number)
  | .inParts parts => (parts.foldl (Part.give number preceding) .start).build
  | .logged name => Operator.logged preceding name Item.detail .quiet .entry

/-- Whether the operator of a stage is on the very publisher before it. -/
def StageScript.isOnPreceding : StageScript → Bool
  | .whole grounded _ => grounded
  | .inParts parts => footing? parts == some .preceding
  | .logged _ => true

/-- What a stage shows of itself. -/
structure StageReport where
  name : String
  config : Config
  onPreceding : Bool

/-- A pipeline: its last publisher, and a report on each stage. -/
structure Pipeline where
  publisher : ItemPublisher
  stages : List StageReport

/-- Puts stages on a pipeline.  The first stage that cannot be built is named, with the reason. -/
def Pipeline.extend (pipeline : Pipeline) : List StageScript → Except (Nat × BuildError) Pipeline
  | [] => .ok pipeline
  | stage :: stages =>
    let number := pipeline.stages.length
    match stage.operator number pipeline.publisher with
    | .error error => .error (number, error)
    | .ok operator =>
      let report : StageReport :=
        { name := operator.name, config := operator.config, onPreceding := stage.isOnPreceding }
      Pipeline.extend
        { publisher := operator.publisher, stages := pipeline.stages ++ [report] } stages

/-! ## Runs -/

/-- The consumer of a run. -/
inductive ConsumerScript where
  | scripted (reactions : List ReactionRule)
  /-- Asks for this amount at the start and keeps what it receives. -/
  | recorder (amount : UInt64)

/-- A run of a pipeline: its consumer, and the calls to make on the consumer's handle afterwards. -/
structure RunScript where
  consumer : ConsumerScript
  calls : List Call

/-- What a recorder has kept. -/
structure Recording where
  values : List Item
  errors : List StreamError
  completions : Nat
  subscriptions : Nat

/-- The recording of the signals that arrived. -/
def Recording.ofSignals (signals : List (Signal Item)) : Recording where
  values := signals.filterMap fun signal =>
    match signal with
    | .next item => some item
    | _ => none
  errors := signals.filterMap fun signal =>
    match signal with
    | .error error => some error
    | _ => none
  completions := signals.countP fun signal => signal.kind == .complete
  subscriptions := signals.countP fun signal => signal.kind == .subscribe

/-- The report on a call after the run. -/
structure CallReport where
  /-- Whether there was a handle to call on. -/
  held : Bool
  entries : List Entry
  demand : Option Demand

/-- The report on a run. -/
structure RunReport where
  escaped : Option Fatal
  entries : List Entry
  demand : Option Demand
  recording : Option Recording
  calls : List CallReport

namespace ConsumerScript

/-- The consumer of a script. -/
def consumer : ConsumerScript → Consumer Item
  | .scripted reactions => Script.consumer reactions
  | .recorder amount => .asking amount

/-- The number under which the signals of a consumer are shown.  A recorder shows none. -/
def shownAs (number : Nat) : ConsumerScript → Option Nat
  | .scripted _ => some number
  | .recorder _ => none

/-- What the consumer has kept of the signals that arrived. -/
def recording (signals : List (Signal Item)) : ConsumerScript → Option Recording
  | .scripted _ => none
  | .recorder _ => some (.ofSignals signals)

end ConsumerScript

namespace Pipeline

variable (pipeline : Pipeline) (origin : Origin)

/-- The demand that a trace leaves on channel `0`.  It is shown where the source is a list of
items. -/
def demand? (trace : List (Moment Note Item)) : Option Demand :=
  match pipeline.publisher.root with
  | .just _ => some (Demand.start.afterAll (callsTo 0 trace))
  | _ => none

/-- The names of the subscriptions that reach a consumer. -/
def names : List String :=
  match pipeline.publisher.root with
  | .cued _ _ => origin.names
  | _ => []

/-- Makes calls on the handle of a consumer, each after the trace so far. -/
def callAfterwards (S : Subscriber World Note Item) (view : View) (state : S.State)
    (trace : List (Moment Note Item)) : List Call → List CallReport
  | [] => []
  | call :: calls =>
    let happened := S.call? call state
    let trace := trace ++ happened.getD []
    { held := happened.isSome
      entries := view.report (happened.getD [])
      demand := pipeline.demand? trace } :: callAfterwards S view state trace calls

/-- One run with the consumer of the given number. -/
def runOne (number : Nat) (script : RunScript) (world : World) : RunReport × World :=
  let S : Subscriber World Note Item := script.consumer.consumer.subscriber
  let outcome := pipeline.publisher.subscribe S world
  let depth := pipeline.publisher.layers.length
  let view : View :=
    { depth
      first := pipeline.stages.length - depth
      consumer := script.consumer.shownAs number
      names := pipeline.names origin }
  ({ escaped := outcome.escaped
     entries := view.report outcome.trace
     demand := pipeline.demand? outcome.trace
     recording := script.consumer.recording (signalsAt depth outcome.trace)
     calls := pipeline.callAfterwards S view outcome.state outcome.trace script.calls },
    outcome.env)

/-- Runs with one consumer after the other. -/
def runAll : Nat → List RunScript → World → List RunReport
  | _, [], _ => []
  | number, script :: scripts, world =>
    let (report, world) := pipeline.runOne origin number script world
    report :: runAll (number + 1) scripts world

end Pipeline

/-- Builds a pipeline on a source and runs it with each consumer. -/
def runPipeline (origin : Origin) (stages : List StageScript) (runs : List RunScript)
    (next : Ident) : Except (Nat × BuildError) (List StageReport × List RunReport) :=
  match Pipeline.extend { publisher := .source origin.source, stages := [] } stages with
  | .error failure => .error failure
  | .ok pipeline => .ok (pipeline.stages, pipeline.runAll origin 0 runs (.start next))

end SignalPeek.Script
