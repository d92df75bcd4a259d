import Mathlib.Data.List.ReduceOption
import Mathlib.Tactic.Common
import SignalPeek.Proofs.Handing
import SignalPeek.Proofs.Traffic

/-!
# Seeds that fail

Over one and the same subscription several seeds of a stack may fail recoverably.  Each of them
makes a layer give the layers below an inert subscription and then its fault.  The layers below
answer the inert subscription first, with all faults of their own, so faults come up from the inside
out (`handed`).

**What the consumer is given.**  The fault of the innermost of these layers, and nothing more ever
after, since that layer has ended.

**What becomes of the other faults.**  Each goes its way down to the next layer whose seed failed,
and is thrown away there (`overtaken`).

**The invariant** (`Begun`) says for a part of a stack that took its first subscription which seeds
ran, what was given to the consumer, and what was handed to whom, if a fault from above came right
after the subscription or none.  A layer extends what holds below it (`begun_onto`), and a fault
from above finds the layers as their own faults have left them (`begun_of_fault`).
-/

namespace SignalPeek

variable {ω ν α σ : Type}

/-! ## Seeds in a trace -/

/-- The error that a run of a seed failed with recoverably. -/
def HookRun.seedFault? (run : HookRun ν α) : Option StreamError :=
  if run.occasion.kind = .subscribe then run.failure.bind fun failure => failure.route.toOption
  else none

def seedFaultAt (layer : ℕ) (trace : List (Moment ν α)) : Option StreamError :=
  (hookRunsAt layer trace).findSome? HookRun.seedFault?

/-- The errors that seeds failed with recoverably, for each of so many layers. -/
def seedFaults (count : ℕ) (trace : List (Moment ν α)) : List (Option StreamError) :=
  (List.range count).map (seedFaultAt · trace)

def Event.isSeeding (event : Event ν α) : Bool :=
  event.hookRun?.any (·.occasion.kind == .subscribe)

/-- The layers whose seeds run in the course of a trace, in order. -/
def seedRuns (trace : List (Moment ν α)) : List ℕ :=
  (trace.filter (·.event.isSeeding)).map Moment.layer

@[simp] lemma seedRuns_append (first second : List (Moment ν α)) :
    seedRuns (first ++ second) = seedRuns first ++ seedRuns second := by
  simp [seedRuns]

@[simp] lemma seedRuns_map_beneath (above : Standing) (trace : List (Moment ν α)) :
    seedRuns (trace.map (·.beneath above)) = (seedRuns trace).map (· + 1) := by
  rw [seedRuns, seedRuns, List.filter_map, List.map_map, List.map_map]
  rfl

/-- Where hooks run for errors only, no seed does. -/
lemma Confined.seedRuns_eq_nil {trace : List (Moment ν α)}
    (confined : Confined (· = .error) trace) : seedRuns trace = [] := by
  rw [seedRuns, List.map_eq_nil_iff, List.filter_eq_nil_iff]
  intro moment h
  unfold Event.isSeeding
  cases hrun : moment.event.hookRun? with
  | none => simp
  | some run => simp [confined.hookRun h hrun]

lemma Confined.seedFaultAt_eq_none {trace : List (Moment ν α)}
    (confined : Confined (· = .error) trace) (layer : ℕ) : seedFaultAt layer trace = none := by
  rw [seedFaultAt, List.findSome?_eq_none_iff]
  intro run h
  obtain ⟨moment, hmem, hrun⟩ := List.mem_filterMap.mp h
  unfold Moment.hookRunAt? at hrun
  split at hrun
  · simp [HookRun.seedFault?, confined.hookRun hmem hrun]
  · simp at hrun

lemma Confined.seedFaults_append {second : List (Moment ν α)}
    (confined : Confined (· = .error) second) (count : ℕ) (first : List (Moment ν α)) :
    seedFaults count (first ++ second) = seedFaults count first := by
  refine List.map_congr_left fun layer _ => ?_
  have hnone := confined.seedFaultAt_eq_none layer
  unfold seedFaultAt at hnone ⊢
  rw [hookRunsAt_append, List.findSome?_append, hnone, Option.or_none]

/-- Where hooks run for errors only, and none of those fails, there is no fault. -/
lemma Confined.faults_eq_nil {trace : List (Moment ν α)} (confined : Confined (· = .error) trace)
    (unopposed : Unopposed trace) : faults trace = [] := by
  rw [faults, List.filterMap_eq_nil_iff]
  intro moment h
  cases hevent : moment.event with
  | hook run =>
      have hrun : moment.event.hookRun? = some run := by rw [hevent]; rfl
      simp [Event.fault?, unopposed moment h run hrun (confined.hookRun h hrun)]
  | _ => rfl

/-! ## The first subscription at one layer -/

/-- What a layer shows of the first subscription, where its seed fails with this fault or does not
fail. -/
structure Seeded (hooks : Hooks ω ν α σ) (events : List (Standing × Event ν α))
    (session : Session σ) (fault : Option StreamError) : Prop where
  ran : ((events.filter (·.2.isSeeding)).map fun _ => 0) = if hooks.seed.isSome then [0] else []
  quiet : handingsOf events = []
  shown : (events.filterMap (·.2.hookRun?)).findSome? HookRun.seedFault? = fault
  phase : session.phase = if fault.isSome then .terminated else .active

/-- Unless the seed fails for good, a subscription is passed on, and the fault after it. -/
lemma Conduct.seeded {hooks : Hooks ω ν α σ} {config : Config} {given : Subscription}
    {session' : Session σ} {events : List (Standing × Event ν α)} {signals : List (Signal α)}
    (conduct : Conduct hooks config .fresh (.subscribe given) events session' (.forward signals)) :
    ∃ subscription fault, Seeded hooks events session' fault
      ∧ signals = .subscribe subscription :: fault.toList.map .error := by
  cases conduct with
  | refused undue => simp [Session.accepts] at undue
  | passed due note there state =>
      refine ⟨.relay given, none, ⟨?_, ?_, ?_, rfl⟩, rfl⟩
      · rw [show hooks.seed.isSome = note.isSome from there]
        cases note <;> rfl
      · cases note <;> rfl
      · cases note <;> rfl
  | @replaced parent due note failure error fails route state =>
      have present : hooks.seed.isSome = true := fails.watches
      have hfault : ((.subscribe given : Signal α).run (some failure) note).seedFault?
          = some error := by
        simp [HookRun.seedFault?, Signal.run, Signal.kind, route, Except.toOption]
      refine ⟨.inert, some error, ⟨?_, rfl, ?_, rfl⟩, rfl⟩
      · rw [if_pos present]
        rfl
      · simp [List.filterMap_cons, Signal.withdrawal, hfault]

/-! ## What is handed to whom -/

/-- What is handed to whom when the layers have these seed faults, if no hook objects.  The faults
come up from the inside out: the layers below a layer have done with theirs before its own fault
goes its way. -/
def handed : List (Layer ω ν α × Option StreamError) → List Handing
  | [] => []
  | (_, fault) :: rest => (handed rest ++ fault.toList.flatMap (journey · rest)).map .beneath

/-! ## Warnings -/

/-- The layers with a fault, by number. -/
def fallen : List (Option StreamError) → List (ℕ × StreamError)
  | [] => []
  | fault :: faults => fault.toList.map (0, ·) ++ (fallen faults).map (Prod.map (· + 1) id)

/-- The warnings among the handings: which layer throws away which error. -/
def warnings (handings : List Handing) : List (ℕ × StreamError) :=
  (handings.filter (·.way = .dropped)).map fun handing => (handing.layer, handing.error)

@[simp] lemma warnings_append (first second : List Handing) :
    warnings (first ++ second) = warnings first ++ warnings second := by
  simp [warnings]

@[simp] lemma warnings_map_beneath (given : List Handing) :
    warnings (given.map .beneath) = (warnings given).map (Prod.map (· + 1) id) := by
  rw [warnings, warnings, List.filter_map, List.map_map, List.map_map]
  rfl

/-- Where the next fault is, the error is thrown away. -/
lemma warnings_journey (e : StreamError) (layers : List (Layer ω ν α))
    {faults : List (Option StreamError)} (length : layers.length = faults.length) :
    warnings (journey e (layers.zip faults))
      = (fallen faults).head?.toList.map fun next => (next.1, e) := by
  induction layers generalizing faults with
  | nil =>
      obtain rfl : faults = [] := List.length_eq_zero_iff.mp length.symm
      rfl
  | cons layer layers ih =>
      cases faults with
      | nil => simp at length
      | cons fault faults =>
          cases fault with
          | some fault =>
              simp only [List.zip_cons_cons, journey]
              cases layer.config.errorSink <;> rfl
          | none =>
              have hrest := ih (Nat.succ.inj length)
              have hown : warnings (⟨0, .sent, e⟩
                  :: if layer.hooks.error.isSome then [⟨0, .shown, e⟩] else []) = [] := by
                split <;> rfl
              simp only [List.zip_cons_cons, journey, warnings_append, hown, warnings_map_beneath,
                hrest, fallen]
              cases fallen faults <;> rfl

/-- Each of these errors with the layer of the next one. -/
def overtaken (falls : List (ℕ × StreamError)) : List (ℕ × StreamError) :=
  List.zipWith (fun given next => (next.1, given.2)) falls falls.tail

lemma overtaken_cons (fall : ℕ × StreamError) (falls : List (ℕ × StreamError)) :
    overtaken (fall :: falls)
      = (falls.head?.toList.map fun next => (next.1, fall.2)) ++ overtaken falls := by
  cases falls <;> rfl

lemma overtaken_map (falls : List (ℕ × StreamError)) :
    overtaken (falls.map (Prod.map (· + 1) id)) = (overtaken falls).map (Prod.map (· + 1) id) := by
  rw [overtaken, overtaken, ← List.map_tail, List.zipWith_map, List.map_zipWith]
  rfl

/-- **Each fault is thrown away at the next one**, the innermost first. -/
lemma warnings_handed (layers : List (Layer ω ν α)) {faults : List (Option StreamError)}
    (length : layers.length = faults.length) :
    warnings (handed (layers.zip faults)) = (overtaken (fallen faults)).reverse := by
  induction layers generalizing faults with
  | nil =>
      obtain rfl : faults = [] := List.length_eq_zero_iff.mp length.symm
      rfl
  | cons layer layers ih =>
      cases faults with
      | nil => simp at length
      | cons fault faults =>
          have hrest := ih (Nat.succ.inj length)
          cases fault with
          | none => simp [handed, fallen, hrest, overtaken_map, List.map_reverse]
          | some fault =>
              have hjourney := warnings_journey fault layers (Nat.succ.inj length)
              simp only [List.zip_cons_cons, handed, fallen, Option.toList_some, List.map_cons,
                List.map_nil, List.singleton_append, List.flatMap_singleton, warnings_map_beneath,
                warnings_append, hrest, hjourney, overtaken_cons, overtaken_map, List.map_append,
                List.map_reverse, List.reverse_append]
              cases fallen faults <;> rfl

/-! ## What a stack makes of the first subscription -/

/-- The last of the faults, if there are any. -/
def lastFault (faults : List (Option StreamError)) : Option StreamError :=
  faults.reduceOption.getLast?

@[simp] lemma lastFault_cons_none (faults : List (Option StreamError)) :
    lastFault (none :: faults) = lastFault faults := by
  rw [lastFault, List.reduceOption_cons_of_none, lastFault]

@[simp] lemma lastFault_cons_some (fault : StreamError) (faults : List (Option StreamError)) :
    lastFault (some fault :: faults) = some ((lastFault faults).getD fault) := by
  rw [lastFault, List.reduceOption_cons_of_some, List.getLast?_cons, lastFault]

lemma Ready.terminated_mem {faults : List (Option StreamError)} {phases : List Phase}
    (ready : Ready faults phases) {last : StreamError} (h : lastFault faults = some last) :
    .terminated ∈ phases := by
  induction ready with
  | nil => simp [lastFault] at h
  | ended fault faults phases => exact List.mem_cons_self
  | active ready ih => exact List.mem_cons_of_mem _ (ih (by simpa using h))

lemma Ready.eq_active {faults : List (Option StreamError)} {phases : List Phase}
    (ready : Ready faults phases) (h : lastFault faults = none) :
    ∀ phase ∈ phases, phase = .active := by
  induction ready with
  | nil => exact List.forall_mem_nil _
  | ended fault faults phases => simp at h
  | active ready ih => exact List.forall_mem_cons.mpr ⟨rfl, ih (by simpa using h)⟩

lemma exists_lastFault {faults : List (Option StreamError)} {fault : StreamError}
    (h : some fault ∈ faults) : ∃ last, lastFault faults = some last := by
  have hmem : fault ∈ faults.reduceOption := List.reduceOption_mem_iff.mpr h
  exact Option.isSome_iff_exists.mp (List.getLast?_isSome.mpr (List.ne_nil_of_mem hmem))

/-- What the first subscription comes to, where the subscriber has these layers.  If the seed of a
layer above them failed, its fault came right after the subscription. -/
structure Begun (S : Subscriber ω ν α) (layers : List (Layer ω ν α)) (fault : Option StreamError)
    (outcome : Outcome ω ν α S.State) : Prop where
  /-- All seeds ran, in order and once each. -/
  seeded : seedRuns outcome.trace = layers.findIdxs fun layer => layer.hooks.seed.isSome
  /-- The layers before the first fault are active. -/
  ready : fault = none → Ready (seedFaults layers.length outcome.trace) (S.phases outcome.state)
  /-- The consumer was given a subscription, and then an error if there are any faults. -/
  heard : ∃ (subscription : Subscription) (given : Option StreamError),
    signalsAt layers.length outcome.trace = .subscribe subscription :: given.toList.map .error
      ∧ given.isSome = (lastFault (fault :: seedFaults layers.length outcome.trace)).isSome
      ∧ (Unopposed outcome.trace →
          given = lastFault (fault :: seedFaults layers.length outcome.trace))
  handed : Unopposed outcome.trace →
    handings outcome.trace = handed (layers.zip (seedFaults layers.length outcome.trace))
      ++ fault.toList.flatMap (journey · (layers.zip (seedFaults layers.length outcome.trace)))

/-- Where there are faults, the consumer was given an error. -/
lemma Begun.given {S : Subscriber ω ν α} {layers : List (Layer ω ν α)}
    {outcome : Outcome ω ν α S.State} (begun : Begun S layers none outcome) {last : StreamError}
    (hlast : lastFault (seedFaults layers.length outcome.trace) = some last) :
    ∃ subscription x, signalsAt layers.length outcome.trace = [.subscribe subscription, .error x]
      ∧ (Unopposed outcome.trace →
          lastFault (seedFaults layers.length outcome.trace) = some x) := by
  obtain ⟨subscription, given, hheard, hgiven, heq⟩ := begun.heard
  rw [lastFault_cons_none] at hgiven heq
  cases given with
  | none => simp [hlast] at hgiven
  | some x => exact ⟨subscription, x, hheard, fun unopposed => (heq unopposed).symm⟩

namespace Subscriber

/-- The first subscription begins all layers, if nothing escapes. -/
def Begins (S : Subscriber ω ν α) (layers : List (Layer ω ν α)) : Prop :=
  ∀ subscription env, (S.receive (.subscribe subscription) S.init env).escaped = none →
    Begun S layers none (S.receive (.subscribe subscription) S.init env)

variable {S : Subscriber ω ν α} {layers : List (Layer ω ν α)}

/-- What the consumer hears of a fault from above: nothing if there is an ended layer in between. -/
lemma heard_of_fault (confines : S.Confines (· = .error)) {depth : ℕ} (hsealed : S.Sealed depth)
    (delivers : S.Delivers depth) {faults : List (Option StreamError)} {state : S.State}
    (ready : Ready faults (S.phases state)) (fault : StreamError) (env : ω)
    (calm : (S.receive (.error fault) state env).escaped = none) :
    ∃ x, signalsAt depth (S.receive (.error fault) state env).trace
        = (if (lastFault faults).isSome then [] else [.error x])
      ∧ (Unopposed (S.receive (.error fault) state env).trace → x = fault) := by
  cases hlast : lastFault faults with
  | none =>
      refine ⟨_, delivers fault state env (ready.eq_active hlast) calm, fun unopposed => ?_⟩
      rw [(confines (.error fault) state env rfl).faults_eq_nil unopposed]
      rfl
  | some last =>
      exact ⟨fault, (hsealed (.error fault) env (ready.terminated_mem hlast)).1, fun _ => rfl⟩

/-- **A fault from above** finds the layers as the faults of their own have left them. -/
lemma begun_of_fault (conveys : S.Conveys layers) (confines : S.Confines (· = .error))
    (hsealed : S.Sealed layers.length) (delivers : S.Delivers layers.length)
    {first : Outcome ω ν α S.State} (begun : Begun S layers none first) (fault : StreamError)
    (calm : (S.receive (.error fault) first.state first.env).escaped = none) :
    Begun S layers (some fault)
      ((S.receive (.error fault) first.state first.env).precededBy first.trace) := by
  -- No seed runs over an error, so the faults are those from before it.
  have confined := confines (.error fault) first.state first.env rfl
  have ready := begun.ready rfl
  have hfaults := confined.seedFaults_append layers.length first.trace
  obtain ⟨subscription, given, hheard, hgiven, hlast⟩ := begun.heard
  obtain ⟨x, hsecond, hx⟩ := heard_of_fault confines hsealed delivers ready fault first.env calm
  rw [lastFault_cons_none] at hgiven hlast
  refine ⟨?seeded, nofun, ⟨subscription, given.or (some x), ?told, ?some, ?last⟩, ?handed⟩
  case seeded =>
    simp only [Outcome.precededBy, seedRuns_append, confined.seedRuns_eq_nil, List.append_nil]
    exact begun.seeded
  case told =>
    simp only [Outcome.precededBy, signalsAt_append, hheard, hsecond, ← hgiven]
    cases given <;> rfl
  case some =>
    rw [lastFault_cons_some]
    cases given <;> rfl
  case last =>
    intro unopposed
    obtain ⟨hfirst, hrest⟩ := Unopposed.of_append unopposed
    simp only [Outcome.precededBy, hfaults, lastFault_cons_some, ← hlast hfirst, hx hrest]
    cases given <;> rfl
  case handed =>
    intro unopposed
    obtain ⟨hfirst, hrest⟩ := Unopposed.of_append unopposed
    simp only [Outcome.precededBy, handings_append, hfaults, begun.handed hfirst,
      conveys fault _ _ _ ready calm hrest, Option.toList_none, List.flatMap_nil, List.append_nil,
      Option.toList_some, List.flatMap_singleton]

end Subscriber

lemma Consumer.begun (C : Consumer α) (subscription : Subscription) (env : ω) :
    Begun C.subscriber ([] : List (Layer ω ν α)) none
      (C.subscriber.receive (.subscribe subscription) C.subscriber.init env) := by
  refine ⟨?seeded, fun _ => .nil, ⟨subscription, none, C.attentive _ _ _, rfl, fun _ => rfl⟩,
    fun _ => ?handed⟩
  case seeded =>
    rw [seedRuns, List.findIdxs_nil, List.map_eq_nil_iff, List.filter_eq_nil_iff]
    intro moment h
    simp [Event.isSeeding, C.hookRun?_receive _ _ _ moment h]
  case handed =>
    have hinit : (C.subscriber : Subscriber ω ν α).init = (none, C.init) := rfl
    rw [hinit, C.receive_eq, handings, List.filterMap_map]
    refine List.filterMap_eq_nil_iff.mpr (List.forall_mem_cons.mpr ⟨rfl, fun event h => ?_⟩)
    rcases Reaction.of_mem_events h with ⟨channel, call, rfl⟩ | ⟨fatal, rfl⟩ <;> rfl

namespace Layer

variable {layer : Layer ω ν α} {actual : Subscriber ω ν α}

lemma hookRunsAt_succ_receive_onto (layer : Layer ω ν α) (actual : Subscriber ω ν α) (depth : ℕ)
    (signal : Signal α) (session : Session layer.State) (below : actual.State) (env : ω) :
    hookRunsAt (depth + 1) ((layer.onto actual).receive signal (session, below) env).trace
      = hookRunsAt depth (layer.passedOn actual signal session below env).trace := by
  have hown : hookRunsAt (depth + 1) (layer.ownMoments actual signal session below env) = [] := by
    refine List.filterMap_eq_nil_iff.mpr fun moment h => ?_
    obtain ⟨shown, _, rfl⟩ := List.mem_map.mp h
    exact if_neg (Nat.succ_ne_zero depth).symm
  rw [receive_onto, hookRunsAt_append, hown, List.nil_append, hookRunsAt_succ_map_beneath]

lemma seedFaults_succ_receive_onto (layer : Layer ω ν α) (actual : Subscriber ω ν α) (count : ℕ)
    (signal : Signal α) (session : Session layer.State) (below : actual.State) (env : ω) :
    seedFaults (count + 1) ((layer.onto actual).receive signal (session, below) env).trace
      = ((layer.turn session signal env).events.filterMap (·.2.hookRun?)).findSome?
            HookRun.seedFault?
          :: seedFaults count (layer.passedOn actual signal session below env).trace := by
  rw [seedFaults, List.range_succ_eq_map, List.map_cons, List.map_map]
  refine congrArg₂ (· :: ·) ?_ (List.map_congr_left fun depth _ => ?_)
  · rw [seedFaultAt, hookRunsAt_zero_receive_onto]
  · exact congrArg (List.findSome? HookRun.seedFault?)
      (hookRunsAt_succ_receive_onto layer actual depth signal session below env)

lemma seedRuns_receive_onto (signal : Signal α) (session : Session layer.State)
    (below : actual.State) (env : ω) :
    seedRuns ((layer.onto actual).receive signal (session, below) env).trace
      = ((layer.turn session signal env).events.filter (·.2.isSeeding)).map (fun _ => 0)
        ++ (seedRuns (layer.passedOn actual signal session below env).trace).map (· + 1) := by
  have hown : seedRuns (layer.ownMoments actual signal session below env)
      = ((layer.turn session signal env).events.filter (·.2.isSeeding)).map (fun _ => 0) := by
    rw [seedRuns, ownMoments, moments, List.filter_map, List.map_map]
    rfl
  rw [receive_onto, seedRuns_append, seedRuns_map_beneath, hown]

/-- What a layer makes of the first subscription, given what becomes of what it passes on. -/
lemma begun_onto {layers : List (Layer ω ν α)} {offered : Subscription} {env : ω}
    {fault : Option StreamError}
    (seeded : Seeded layer.hooks (layer.turn .fresh (.subscribe offered) env).events
      (layer.turn .fresh (.subscribe offered) env).session fault)
    (begun : Begun actual layers fault
      (layer.passedOn actual (.subscribe offered) .fresh actual.init env)) :
    Begun (layer.onto actual) (layer :: layers) none
      ((layer.onto actual).receive (.subscribe offered) (.fresh, actual.init) env) := by
  have hfaults := seedFaults_succ_receive_onto layer actual layers.length (.subscribe offered)
    .fresh actual.init env
  rw [seeded.shown] at hfaults
  obtain ⟨subscription, given, hheard, hgiven, hlast⟩ := begun.heard
  refine ⟨?seeded, fun _ => ?ready, ⟨subscription, given, ?told, ?some, fun unopposed => ?last⟩,
    fun unopposed => ?handed⟩
  case seeded =>
    have hstart : layers.findIdxs (fun layer => layer.hooks.seed.isSome) 1
        = (layers.findIdxs fun layer => layer.hooks.seed.isSome).map (· + 1) :=
      List.findIdxs_start
    rw [seedRuns_receive_onto, seeded.ran, begun.seeded, List.findIdxs_cons, ← hstart]
    split <;> rfl
  case ready =>
    have hphases : (layer.onto actual).phases ((layer.onto actual).receive (.subscribe offered)
          (.fresh, actual.init) env).state
        = (layer.turn .fresh (.subscribe offered) env).session.phase
          :: actual.phases
            (layer.passedOn actual (.subscribe offered) .fresh actual.init env).state := by
      rw [receive_onto, phases_onto]
    rw [List.length_cons, hfaults, hphases, seeded.phase]
    cases fault with
    | none => exact .active (begun.ready rfl)
    | some fault => exact .ended fault _ _
  case told =>
    rw [List.length_cons, signalsAt_succ_receive_onto]
    exact hheard
  case some =>
    rw [List.length_cons, hfaults, lastFault_cons_none]
    exact hgiven
  case last =>
    rw [receive_onto] at unopposed
    rw [List.length_cons, hfaults, lastFault_cons_none]
    exact hlast unopposed.of_append.2.of_beneath
  case handed =>
    rw [receive_onto] at unopposed
    have hpassed := begun.handed unopposed.of_append.2.of_beneath
    have hown : handings (layer.ownMoments actual (.subscribe offered) .fresh actual.init env)
        = [] := by
      rw [handings_ownMoments]
      exact seeded.quiet
    rw [List.length_cons, hfaults, receive_onto, handings_append, handings_map_beneath, hown,
      hpassed]
    simp [handed]

lemma begins_onto (layer : Layer ω ν α) {layers : List (Layer ω ν α)}
    (begins : actual.Begins layers) (conveys : actual.Conveys layers)
    (confines : actual.Confines (· = .error))
    (hsealed : actual.Sealed layers.length) (delivers : actual.Delivers layers.length) :
    (layer.onto actual).Begins (layer :: layers) := by
  intro offered env calm
  have hinit : (layer.onto actual).init = (.fresh, actual.init) := rfl
  rw [hinit] at calm ⊢
  obtain ⟨hexit, hescaped⟩ := escaped_receive_onto_eq_none.mp calm
  have conduct := layer.conduct .fresh (.subscribe offered) env
  rw [hexit] at conduct
  obtain ⟨subscription, fault, seeded, hsignals⟩ := conduct.seeded
  refine begun_onto seeded ?_
  rw [passedOn, hsignals] at hescaped ⊢
  -- What goes on is a subscription alone, or one with the fault of the layer after it.
  cases fault with
  | none =>
      rw [Option.toList_none, List.map_nil, Subscriber.receiveAll_singleton] at hescaped ⊢
      exact begins subscription _ hescaped
  | some fault =>
      rw [Option.toList_some, List.map_singleton, Subscriber.receiveAll] at hescaped ⊢
      obtain ⟨hfirst, hsecond⟩ := Outcome.andThen_escaped_eq_none.mp hescaped
      rw [Outcome.andThen_of_not_escaped hfirst, Subscriber.receiveAll_singleton]
      rw [Subscriber.receiveAll_singleton] at hsecond
      exact Subscriber.begun_of_fault conveys confines hsealed delivers
        (begins subscription _ hfirst) fault hsecond

/-- **The first subscription begins a stack**, whatever seeds fail. -/
theorem begins_stack (C : Consumer α) : ∀ layers : List (Layer ω ν α),
    (stack layers C.subscriber).Begins layers
  | [] => fun subscription env _ => C.begun subscription env
  | layer :: layers => layer.begins_onto (begins_stack C layers) (conveys_stack C layers)
      (confines_stack C (· = .error) rfl layers) (sealed_stack C layers) (delivers_stack C layers)

/-! ## Runs -/

/-- Before the first subscription a layer drops everything. -/
lemma history_of_unsubscribed (layer : Layer ω ν α) (actual : Subscriber ω ν α)
    {past : List (Stimulus α)} (unsubscribed : subscriptions past = []) (env : ω) :
    ((layer.onto actual).history past env).state = (.fresh, actual.init)
      ∧ ((layer.onto actual).history past env).env = env
      ∧ hookRunsAt 0 ((layer.onto actual).history past env).trace = []
      ∧ ∀ depth, signalsAt (depth + 1) ((layer.onto actual).history past env).trace = [] := by
  refine undue_run (fun signal h => ?_) env
  have unoffered := List.filterMap_eq_nil_iff.mp unsubscribed _ h
  cases signal with
  | subscribe _ => simp [Stimulus.subscription?, Signal.subscription?] at unoffered
  | _ => rfl

/-- A seed with a fault is one that failed, so that the consumer holds no handle that leads
anywhere. -/
lemma seedFailed_of_mem {count : ℕ} {trace : List (Moment ν α)} {fault : StreamError}
    (h : some fault ∈ seedFaults count trace) : seedFailed trace = true := by
  obtain ⟨depth, _, hfault⟩ := List.mem_map.mp h
  obtain ⟨run, hmem, hrun⟩ := List.exists_of_findSome?_eq_some hfault
  obtain ⟨moment, hmoment, hshown⟩ := List.mem_filterMap.mp hmem
  refine List.any_eq_true.mpr ⟨run, List.mem_filterMap.mpr ⟨moment, hmoment, ?_⟩, ?_⟩
  · unfold Moment.hookRunAt? at hshown
    split at hshown
    · exact hshown
    · exact absurd hshown (Option.some_ne_none run).symm
  · unfold HookRun.seedFault? at hrun
    split at hrun
    · rename_i hkind
      obtain ⟨failure, hfailure, _⟩ := Option.bind_eq_some_iff.mp hrun
      simp [HookRun.isVoid, hkind, hfailure]
    · exact absurd hrun (Option.some_ne_none fault).symm

/-- No call comes of the first subscription where a seed fails. -/
lemma callsTo_of_seedFailed (C : Consumer α) (layers : List (Layer ω ν α))
    (offered : Subscription) (env : ω)
    (failed : seedFailed ((stack layers C.subscriber).receive (.subscribe offered)
      (stack layers C.subscriber).init env).trace = true) (channel : ℕ) :
    callsTo channel ((stack layers C.subscriber).receive (.subscribe offered)
      (stack layers C.subscriber).init env).trace = [] := by
  have opened := (opens_stack C layers).opened offered env
  have explained := opened.explained none channel
  rw [opened.handle, if_pos failed, filterMap_call?_eq_replicate (by simp) (by simp),
    filterMap_refused?_grounds] at explained
  exact explained

/-- After a seed has failed, no call that the consumer makes reaches anything. -/
lemma callsTo_history_of_seedFailed (C : Consumer α) (layer : Layer ω ν α)
    (layers : List (Layer ω ν α)) {stimuli : List (Stimulus α)} {offered : Subscription} {env : ω}
    (first : (subscriptions stimuli).head? = some offered)
    (failed : seedFailed ((stack (layer :: layers) C.subscriber).history stimuli env).trace = true)
    (channel : ℕ) :
    callsTo channel ((stack (layer :: layers) C.subscriber).history stimuli env).trace
      = (grounds C (layer :: layers) stimuli env).filterMap
          (Ground.call? none offered.channel? channel) := by
  have served := served_history C layer layers stimuli env
  rw [served.calls channel, first, if_pos failed]
  rfl

/-- The first subscription finds a stack as it was made. -/
lemma after_of_unsubscribed (layer : Layer ω ν α) (actual : Subscriber ω ν α)
    {past : List (Stimulus α)} (unsubscribed : subscriptions past = []) (signal : Signal α)
    (env : ω) :
    (layer.onto actual).after past (.signal signal) env
      = (layer.onto actual).receive signal (layer.onto actual).init
          ((layer.onto actual).history past env).env := by
  have hstate := (history_of_unsubscribed layer actual unsubscribed env).1
  exact congrArg ((layer.onto actual).receive signal · ((layer.onto actual).history past env).env)
    hstate

/-- **Seeds that fail, one within the other.**  Where some seeds of a stack fail over the first
subscription, and nothing escapes, all seeds ran in order and once each.  The consumer was given a
subscription and an error, and is given nothing else ever after.  If no hook for errors failed, the
error is the last fault, and every other fault was handed to the hooks between its layer and that of
the next fault, where it was thrown away.  No call reached anything in this, and none that the
consumer makes later will. -/
theorem seed_failures_nest (layers : List (Layer ω ν α)) (C : Consumer α)
    (past : List (Stimulus α)) (offered : Subscription) (env : ω) :
    let S := stack layers C.subscriber
    let opening := .signal (.subscribe offered)
    let outcome := S.after past opening env
    let faults := seedFaults layers.length outcome.trace
    subscriptions past = [] → outcome.escaped = none → (∃ fault, some fault ∈ faults) →
      seedRuns outcome.trace = layers.findIdxs (fun layer => layer.hooks.seed.isSome)
        ∧ (∃ subscription x,
            signalsAt layers.length outcome.trace = [.subscribe subscription, .error x]
              ∧ (∀ later, signalsAt layers.length (S.history (past ++ opening :: later) env).trace
                  = [.subscribe subscription, .error x])
              ∧ (Unopposed outcome.trace → lastFault faults = some x))
        ∧ (Unopposed outcome.trace →
            handings outcome.trace = handed (layers.zip faults)
              ∧ warnings (handings outcome.trace) = (overtaken (fallen faults)).reverse)
        ∧ (∀ channel, callsTo channel outcome.trace = [])
        ∧ ∀ later channel, callsTo channel (S.history (past ++ opening :: later) env).trace
            = (grounds C layers (past ++ opening :: later) env).filterMap
                (Ground.call? none offered.channel? channel) := by
  intro S opening outcome faults unsubscribed calm failed
  obtain ⟨fault, hmem⟩ := failed
  cases layers with
  | nil => exact absurd hmem List.not_mem_nil
  | cons layer layers =>
      have houtcome : outcome = S.receive (.subscribe offered) S.init (S.history past env).env :=
        after_of_unsubscribed layer (stack layers C.subscriber) unsubscribed _ env
      have hquiet : ∀ depth, signalsAt (depth + 1) (S.history past env).trace = [] :=
        (history_of_unsubscribed layer (stack layers C.subscriber) unsubscribed env).2.2.2
      have hfailed : seedFailed outcome.trace = true := seedFailed_of_mem hmem
      have begun : Begun S (layer :: layers) none outcome := by
        rw [houtcome] at calm ⊢
        exact begins_stack C (layer :: layers) offered _ calm
      obtain ⟨last, hlast⟩ := exists_lastFault hmem
      obtain ⟨subscription, x, hheard, hx⟩ := begun.given hlast
      refine ⟨begun.seeded, ⟨subscription, x, hheard, fun later => ?ever, hx⟩,
        fun h => ?handed, fun channel => ?calls, fun later channel => ?ever_calls⟩
      case ever =>
        have hafter := Subscriber.silence_of_sealed (sealed_stack C (layer :: layers))
          ((begun.ready rfl).terminated_mem hlast) later outcome.env
        rw [S.trace_history_append_cons, signalsAt_append, signalsAt_append, hafter,
          List.append_nil]
        exact congrArg₂ (· ++ ·) (hquiet layers.length) hheard
      case handed =>
        have hhanded : handings outcome.trace = handed ((layer :: layers).zip faults) :=
          (begun.handed h).trans (List.append_nil _)
        refine ⟨hhanded, hhanded ▸ warnings_handed (layer :: layers) ?_⟩
        simp [faults, seedFaults]
      case calls =>
        rw [houtcome] at hfailed ⊢
        exact callsTo_of_seedFailed C (layer :: layers) offered _ hfailed channel
      case ever_calls =>
        refine callsTo_history_of_seedFailed C layer layers ?_ ?_ channel
        · rw [subscriptions, List.filterMap_append, show past.filterMap _ = [] from unsubscribed]
          rfl
        · rw [S.trace_history_append_cons, seedFailed_append, seedFailed_append,
            show seedFailed (S.after past opening env).trace = true from hfailed]
          simp

/-- A layer whose seed fails. -/
def barren (note : ν) (cause : Cause) (errorSink : Option String) : Layer ω ν α where
  State := Unit
  hooks := { (Hooks.none : Hooks ω ν α Unit) with
    seed := some fun env => { result := .error (.recoverable cause), note, env } }
  config := { Config.standard with errorSink }

/-- A layer that looks at errors and has nothing against them. -/
def attending (note : ν) : Layer ω ν α where
  State := Unit
  hooks := { (Hooks.none : Hooks ω ν α Unit) with
    seed := some fun env => { result := .ok (), note, env }
    error := some fun _ _ env => { effect := id, failure := none, note, env } }
  config := .standard

/-- Two layers whose seeds fail, and one in between that looks at errors. -/
def barrenTwice : List (Layer Unit Unit Unit) :=
  [barren () (.mk 0 (.message "a")) none, attending (),
    barren () (.mk 1 (.message "b")) (some "late")]

/-- The consumer is given the second fault.  The first fault passes the hook between the two, and is
thrown away by the layer of the second. -/
theorem two_seeds_fail :
    let a : StreamError := .lone (.mk 0 (.message "a"))
    let b : StreamError := .lone (.mk 1 (.message "b"))
    let S := stack barrenTwice (Consumer.asking 5).subscriber
    let past : List (Stimulus Unit) := [.signal .complete]
    let opening := .signal (.subscribe (.direct 0))
    let outcome := S.after past opening ()
    let faults := seedFaults 3 outcome.trace
    subscriptions past = [] ∧ outcome.escaped = none
      ∧ faults = [some a, none, some b] ∧ Unopposed outcome.trace
      ∧ seedRuns outcome.trace = [0, 1, 2]
      ∧ (∃ subscription x,
          signalsAt 3 outcome.trace = [.subscribe subscription, .error x]
            ∧ (∀ later, signalsAt 3 (S.history (past ++ opening :: later) ()).trace
                = [.subscribe subscription, .error x])
            ∧ lastFault faults = some x)
      ∧ handings outcome.trace = handed (barrenTwice.zip faults)
      ∧ handings outcome.trace
        = [⟨3, .sent, b⟩, ⟨1, .sent, a⟩, ⟨1, .shown, a⟩, ⟨2, .sent, a⟩, ⟨2, .dropped, a⟩,
            ⟨2, .sunk "late", a⟩]
      ∧ warnings (handings outcome.trace) = (overtaken (fallen faults)).reverse
      ∧ ∀ channel, callsTo channel outcome.trace = [] := by
  intro a b S past opening outcome faults
  have hfaults : faults = [some a, none, some b] := by
    subst faults outcome opening past S b a
    rfl
  have failed : ∃ fault, some fault ∈ faults := by
    rw [hfaults]
    exact ⟨a, List.mem_cons_self⟩
  have unopposed : Unopposed outcome.trace := by
    subst faults outcome opening past S b a
    exact unopposed_of_all rfl
  have hlist : handings outcome.trace
      = [⟨3, .sent, b⟩, ⟨1, .sent, a⟩, ⟨1, .shown, a⟩, ⟨2, .sent, a⟩, ⟨2, .dropped, a⟩,
          ⟨2, .sunk "late", a⟩] := by
    subst faults outcome opening past S b a
    rfl
  obtain ⟨hseeds, ⟨subscription, x, hheard, hever, hlast⟩, hhanded, hcalls, _⟩ :=
    seed_failures_nest barrenTwice (Consumer.asking 5) past (.direct 0) () rfl rfl failed
  obtain ⟨hhandings, hwarnings⟩ := hhanded unopposed
  exact ⟨rfl, rfl, hfaults, unopposed, hseeds, ⟨subscription, x, hheard, hever, hlast unopposed⟩,
    hhandings, hlist, hwarnings, hcalls⟩

end Layer

end SignalPeek
