import Mathlib.Tactic.Common
import SignalPeek.Proofs.Travel

/-!
# Who is handed an error

An error on its way down a stack is handed to several: it arrives at a layer, the hook of the layer
is shown it, and a layer that has no use for it gives a warning and hands it to its sink.
`handings` reads all of this off a trace, in order.

**The way of an error.**  Layers that are active hand it on, and the first one that has ended throws
it away; if there is none the consumer has it (`journey`).  So it is, as long as no hook objects
(`handings_error`).
-/

namespace SignalPeek

variable {ω ν α σ : Type}

/-- The ways in which an error is handed to someone. -/
inductive Way where
  /-- It arrives as a signal. -/
  | sent
  /-- The hook for errors is shown it. -/
  | shown
  /-- It is thrown away with a warning. -/
  | dropped
  /-- The sink of this name has it. -/
  | sunk (sink : String)
  deriving DecidableEq, Repr

/-- An error is thrown away, with or without a sink to go to. -/
def Way.isLoss : Way → Bool
  | .sent | .shown => false
  | .dropped | .sunk _ => true

/-- An error is handed to a layer, or to the consumer, whose number comes after those of the layers.
-/
structure Handing where
  layer : ℕ
  way : Way
  error : StreamError

/-- A handing as seen from one layer up. -/
def Handing.beneath (handing : Handing) : Handing := { handing with layer := handing.layer + 1 }

def Event.handed? : Event ν α → Option (Way × StreamError)
  | .received (.error error) => some (.sent, error)
  | .hook { occasion := .error error, .. } => some (.shown, error)
  | .notice _ (.errorDropped error) => some (.dropped, error)
  | .sunk sink error => some (.sunk sink, error)
  | _ => none

def Moment.handing? (moment : Moment ν α) : Option Handing :=
  moment.event.handed?.map fun (way, error) => { layer := moment.layer, way, error }

/-- All errors that are handed to anyone in the course of a trace. -/
def handings (trace : List (Moment ν α)) : List Handing := trace.filterMap Moment.handing?

@[simp] lemma handings_append (first second : List (Moment ν α)) :
    handings (first ++ second) = handings first ++ handings second :=
  List.filterMap_append

@[simp] lemma handings_map_beneath (above : Standing) (trace : List (Moment ν α)) :
    handings (trace.map (·.beneath above)) = (handings trace).map Handing.beneath := by
  rw [handings, handings, List.filterMap_map, List.map_filterMap]
  refine List.filterMap_congr fun moment _ => ?_
  simp only [Function.comp, Moment.handing?, Moment.event_beneath, Option.map_map]
  rfl

/-- What a layer hands to itself in a turn. -/
def handingsOf (events : List (Standing × Event ν α)) : List Handing :=
  events.filterMap fun shown => shown.2.handed?.map fun (way, error) => { layer := 0, way, error }

lemma handingsOf_append (first second : List (Standing × Event ν α)) :
    handingsOf (first ++ second) = handingsOf first ++ handingsOf second :=
  List.filterMap_append

/-- No hook for errors fails in the course of a trace. -/
def Unopposed (trace : List (Moment ν α)) : Prop :=
  ∀ moment ∈ trace, ∀ run, moment.event.hookRun? = some run → run.occasion.kind = .error →
    run.failure = none

lemma unopposed_of_all {trace : List (Moment ν α)}
    (h : (trace.filterMap (·.event.hookRun?)).all
      (fun run => run.occasion.kind != .error || run.failure.isNone) = true) : Unopposed trace := by
  intro moment hmem run hrun hkind
  have hrun' := List.all_eq_true.mp h run (List.mem_filterMap.mpr ⟨moment, hmem, hrun⟩)
  simpa [hkind] using hrun'

lemma Unopposed.of_append {first second : List (Moment ν α)} (h : Unopposed (first ++ second)) :
    Unopposed first ∧ Unopposed second :=
  List.forall_mem_append.mp h

lemma Unopposed.of_beneath {above : Standing} {trace : List (Moment ν α)}
    (h : Unopposed (trace.map (·.beneath above))) : Unopposed trace :=
  List.forall_mem_map.mp h

/-! ## Errors through one layer -/

/-- What a layer does about an error if nothing fails over it: it throws it away, or lets the hook
see it and passes it on. -/
lemma Conduct.of_unopposed_error {hooks : Hooks ω ν α σ} {config : Config}
    {session session' : Session σ} {e : StreamError} {events : List (Standing × Event ν α)}
    {exit : Exit α} (conduct : Conduct hooks config session (.error e) events session' exit)
    (active : session.phase = .active)
    (unopposed : ∀ run ∈ events.filterMap (·.2.hookRun?), run.failure = none) :
    exit.signals = [.error e]
      ∧ handingsOf events = if hooks.error.isSome then [⟨0, .shown, e⟩] else [] := by
  cases session with
  | active parent state =>
      have due : (Session.active parent state).Due (.error e : Signal α) parent :=
        .ongoing parent state rfl
      obtain ⟨hexit, note, _, there, hevents, _⟩ := conduct.of_calm due unopposed
      have hook_there : hooks.error.isSome = note.isSome := there
      refine ⟨congrArg Exit.signals hexit, ?_⟩
      rw [hevents, hook_there]
      cases note <;> rfl
  | _ => simp [Session.phase] at active

lemma Consumer.hookRun?_receive (C : Consumer α) (signal : Signal α)
    (state : (C.subscriber : Subscriber ω ν α).State) (env : ω) :
    ∀ moment ∈ (C.subscriber.receive signal state env).trace, moment.event.hookRun? = none := by
  obtain ⟨held, own⟩ := state
  rw [C.receive_eq]
  refine List.forall_mem_map.mpr (List.forall_mem_cons.mpr ⟨rfl, fun event h => ?_⟩)
  rcases Reaction.of_mem_events h with ⟨channel, call, rfl⟩ | ⟨fatal, rfl⟩ <;> rfl

namespace Layer

variable {layer : Layer ω ν α} {actual : Subscriber ω ν α}

lemma handings_ownMoments (signal : Signal α) (session : Session layer.State)
    (below : actual.State) (env : ω) :
    handings (layer.ownMoments actual signal session below env)
      = handingsOf ((session.standing, .received signal)
          :: (layer.turn session signal env).events) := by
  rw [handings, ownMoments, moments, List.filterMap_map]
  rfl

/-- The hooks that run at a layer are those that its turn shows. -/
lemma forall_hookRun_ownMoments {signal : Signal α} {session : Session layer.State}
    {below : actual.State} {env : ω} {Fit : HookRun ν α → Prop} :
    (∀ moment ∈ layer.ownMoments actual signal session below env,
        ∀ run, moment.event.hookRun? = some run → Fit run)
      ↔ ∀ run ∈ (layer.turn session signal env).events.filterMap (·.2.hookRun?), Fit run := by
  simp only [ownMoments, moments, List.forall_mem_map, List.forall_mem_cons, List.mem_filterMap]
  constructor
  · rintro ⟨_, h⟩ run ⟨shown, hmem, hrun⟩
    exact h shown hmem run hrun
  · intro h
    refine ⟨fun run hrun => ?_, fun shown hmem run hrun => h run ⟨shown, hmem, hrun⟩⟩
    exact absurd hrun (Option.some_ne_none run).symm

end Layer

/-! ## The way of an error -/

/-- The layers of a stack that are active come first, and then one that has ended, which is the
first with a fault. -/
inductive Ready : List (Option StreamError) → List Phase → Prop where
  | nil : Ready [] []
  | ended (fault : StreamError) (faults : List (Option StreamError)) (phases : List Phase) :
      Ready (some fault :: faults) (.terminated :: phases)
  | active {faults : List (Option StreamError)} {phases : List Phase}
      (ready : Ready faults phases) : Ready (none :: faults) (.active :: phases)

/-- The handings of an error that is sent to layers, up to the first one with a fault of its own.
That one has ended, and the error is lost there. -/
def journey (e : StreamError) : List (Layer ω ν α × Option StreamError) → List Handing
  | [] => [⟨0, .sent, e⟩]
  | (layer, some _) :: _ =>
    ⟨0, .sent, e⟩ :: ⟨0, .dropped, e⟩ :: layer.config.errorSink.toList.map (⟨0, .sunk ·, e⟩)
  | (layer, none) :: rest =>
    ⟨0, .sent, e⟩ :: (if layer.hooks.error.isSome then [⟨0, .shown, e⟩] else [])
      ++ (journey e rest).map .beneath

/-- An error that nothing fails over goes its way through layers that stand ready. -/
def Subscriber.Conveys (S : Subscriber ω ν α) (layers : List (Layer ω ν α)) : Prop :=
  ∀ e faults state env, Ready faults (S.phases state) →
    (S.receive (.error e) state env).escaped = none →
    Unopposed (S.receive (.error e) state env).trace →
    handings (S.receive (.error e) state env).trace = journey e (layers.zip faults)

lemma Consumer.conveys (C : Consumer α) :
    (C.subscriber : Subscriber ω ν α).Conveys [] := by
  rintro e faults ⟨held, own⟩ env _ _ _
  rw [C.receive_eq, handings, List.filterMap_map, List.filterMap_cons]
  refine congrArg (_ :: ·) (List.filterMap_eq_nil_iff.mpr fun event h => ?_)
  rcases Reaction.of_mem_events h with ⟨channel, call, rfl⟩ | ⟨fatal, rfl⟩ <;> rfl

namespace Layer

variable {layer : Layer ω ν α} {actual : Subscriber ω ν α}

/-- What a layer does with an error that it has no use for, besides giving a warning. -/
lemma sink_eq (config : Config) (e : StreamError) :
    (config.sink e : List (Event ν α)) = config.errorSink.toList.map (.sunk · e) := by
  unfold Config.sink
  cases config.errorSink <;> rfl

lemma handings_refused {session : Session layer.State} {e : StreamError}
    (ended : session.phase = .terminated) (below : actual.State) (env : ω) :
    handings ((layer.onto actual).receive (.error e) (session, below) env).trace
      = ⟨0, .sent, e⟩ :: ⟨0, .dropped, e⟩
        :: layer.config.errorSink.toList.map (⟨0, .sunk ·, e⟩) := by
  have undue := not_accepts_of_terminated ended (.error e : Signal α)
  have hturn : layer.turn session (.error e) env
      = Session.refuse layer.config session (.error e) env :=
    Session.turn_of_not_accepts layer.hooks layer.config undue env
  rw [receive_onto_of_not_accepts undue, handings_ownMoments, hturn]
  simp only [Session.refuse, Session.refusal, Config.dropError, sink_eq]
  cases layer.config.errorSink <;> rfl

lemma conveys_onto {layers : List (Layer ω ν α)} (conveys : actual.Conveys layers) :
    (layer.onto actual).Conveys (layer :: layers) := by
  rintro e faults ⟨session, below⟩ env ready calm unopposed
  rw [phases_onto] at ready
  generalize hphase : session.phase = phase at ready
  -- A layer with a fault of its own has ended and loses the error, any other hands it on.
  cases ready with
  | ended fault faults phases => exact handings_refused hphase below env
  | active ready =>
      have conduct := layer.conduct session (.error e) env
      rw [receive_onto] at unopposed
      obtain ⟨hown, hpassed⟩ := unopposed.of_append
      have hcontent : ∀ run ∈ (layer.turn session (.error e) env).events.filterMap (·.2.hookRun?),
          run.failure = none := by
        intro run h
        refine forall_hookRun_ownMoments.mp hown run h ?_
        rw [(conduct.of_mem_hookRuns h).2.1]
        rfl
      obtain ⟨hsignals, hshown⟩ := conduct.of_unopposed_error hphase hcontent
      have hrest : layer.passedOn actual (.error e) session below env
          = actual.receive (.error e) below (layer.turn session (.error e) env).env := by
        rw [passedOn, hsignals, Subscriber.receiveAll_singleton]
      have hescaped := (escaped_receive_onto_eq_none.mp calm).2
      rw [hrest] at hescaped hpassed
      have hbelow := conveys e _ below _ ready hescaped hpassed.of_beneath
      rw [receive_onto, handings_append, handings_map_beneath, handings_ownMoments, hrest, hbelow]
      have hcons : handingsOf ((session.standing, .received (.error e))
          :: (layer.turn session (.error e) env).events)
            = ⟨0, .sent, e⟩ :: handingsOf (layer.turn session (.error e) env).events := rfl
      rw [hcons, hshown]
      rfl

/-- **The way of an error** down a stack of layers that stand ready. -/
theorem conveys_stack (C : Consumer α) : ∀ layers : List (Layer ω ν α),
    (stack layers C.subscriber).Conveys layers
  | [] => C.conveys
  | _ :: layers => conveys_onto (conveys_stack C layers)

end Layer

end SignalPeek
