import Mathlib.Logic.Function.Basic
import Mathlib.Tactic.Common
import SignalPeek.Proofs.HookOrder

/-!
# Subscriptions do not interfere

Several consumers may subscribe through one operator.  Their subscriptions have the hooks in common,
and with them whatever hooks share and keep between runs, so one of them can leave behind what
another one finds.  If hooks pay no heed to that, each subscription goes as if it were the only one
(`separate_history`).

**Hooks that are not swayed** (`Hooks.Unswayed`) do to the state, and fail over the signal, as the
two of them demand.  What they note down may depend on the others, so notes are left out of the
comparison (`unnoted`).

**One subscription.**  Where no hook is swayed, an outcome is the same whatever hooks share, but for
the notes.  A consumer has no part in it, and a layer on top of a subscriber of which this holds is
one again (`unswayed_stack`).

**Many subscriptions.**  A `Family` takes a call for one of its members at a time, in any order.  By
induction over the calls, a member comes to what its own calls come to (`Family.matches_history`).
-/

namespace SignalPeek

variable {ω ν α σ τ : Type}

/-! ## Notes left out -/

/-- A run of a hook without the note that it left. -/
def HookRun.unnoted (run : HookRun ν α) : HookRun Unit α :=
  { occasion := run.occasion, failure := run.failure, note := () }

def Event.unnoted : Event ν α → Event Unit α
  | .received signal => .received signal
  | .hook run => .hook run.unnoted
  | .notice operator given => .notice operator given
  | .sunk sink error => .sunk sink error
  | .called channel call => .called channel call
  | .failed fatal => .failed fatal
  | .tolerated fatal => .tolerated fatal

def Moment.unnoted (moment : Moment ν α) : Moment Unit α :=
  { layer := moment.layer, standings := moment.standings, event := moment.event.unnoted }

/-- All that happened, without the notes that hooks left. -/
def unnoted (trace : List (Moment ν α)) : List (Moment Unit α) :=
  trace.map Moment.unnoted

@[simp] lemma unnoted_append (first second : List (Moment ν α)) :
    unnoted (first ++ second) = unnoted first ++ unnoted second :=
  List.map_append

@[simp] lemma unnoted_map_beneath (above : Standing) (trace : List (Moment ν α)) :
    unnoted (trace.map (·.beneath above)) = (unnoted trace).map (·.beneath above) := by
  rw [unnoted, unnoted, List.map_map, List.map_map]
  rfl

/-- What is seen of moments without their notes is what is seen of the moments. -/
lemma filterMap_unnoted {τ : Type} {view : Moment Unit α → Option τ} {seen : Moment ν α → Option τ}
    (h : ∀ moment : Moment ν α, view moment.unnoted = seen moment) (trace : List (Moment ν α)) :
    (unnoted trace).filterMap view = trace.filterMap seen := by
  rw [unnoted, List.filterMap_map]
  exact congrArg (List.filterMap · trace) (funext h)

/-- Signals have no notes. -/
@[simp] lemma signalsAt_unnoted (layer : ℕ) (trace : List (Moment ν α)) :
    signalsAt layer (unnoted trace) = signalsAt layer trace :=
  filterMap_unnoted (fun ⟨_, _, event⟩ => by cases event <;> rfl) trace

@[simp] lemma callsTo_unnoted (channel : ℕ) (trace : List (Moment ν α)) :
    callsTo channel (unnoted trace) = callsTo channel trace :=
  filterMap_unnoted (fun ⟨_, _, event⟩ => by cases event <;> rfl) trace

lemma hookRunsAt_unnoted (layer : ℕ) (trace : List (Moment ν α)) :
    hookRunsAt layer (unnoted trace) = (hookRunsAt layer trace).map HookRun.unnoted := by
  have h (moment : Moment ν α) : moment.unnoted.hookRunAt? layer
      = (moment.hookRunAt? layer).map HookRun.unnoted := by
    obtain ⟨place, standings, event⟩ := moment
    have hevent : event.unnoted.hookRun? = event.hookRun?.map HookRun.unnoted := by
      cases event <;> rfl
    by_cases hplace : place = layer <;> simp [Moment.hookRunAt?, Moment.unnoted, hplace, hevent]
  rw [hookRunsAt, filterMap_unnoted h, hookRunsAt, List.map_filterMap]

/-! ## Hooks that are not swayed -/

/-- Two replies of a hook do the same to a state, and fail in the same way. -/
structure Reply.Matches (state : Option σ) (reply reply' : Reply ω ν σ) : Prop where
  effect : state.map reply.effect = state.map reply'.effect
  failure : reply.failure = reply'.failure

/-- What the hooks do depends on what they are given, and not on what they share. -/
structure Hooks.Unswayed (hooks : Hooks ω ν α σ) : Prop where
  seed : ∀ seed ∈ hooks.seed, ∀ env env', (seed env).result = (seed env').result
  next : ∀ hook ∈ hooks.next, ∀ item state env env',
    (hook item state env).Matches state (hook item state env')
  error : ∀ hook ∈ hooks.error, ∀ error state env env',
    (hook error state env).Matches state (hook error state env')
  complete : ∀ hook ∈ hooks.complete, ∀ state env env',
    (hook state env).Matches state (hook state env')

structure Ran.Matches (ran ran' : Ran ω ν α σ) : Prop where
  state : ran.state = ran'.state
  events : ran.events.map Event.unnoted = ran'.events.map Event.unnoted
  verdict : ran.verdict = ran'.verdict

lemma matches_runHook (occasion : Occasion α) {hook : Option (Option σ → ω → Reply ω ν σ)}
    (unswayed : ∀ body ∈ hook, ∀ state env env', (body state env).Matches state (body state env'))
    (state : Option σ) (env env' : ω) :
    (runHook occasion hook state env).Matches (runHook occasion hook state env') := by
  cases hook with
  | none => exact ⟨rfl, rfl, rfl⟩
  | some body =>
      obtain ⟨heffect, hfailure⟩ := unswayed body rfl state env env'
      refine ⟨heffect, ?_, congrArg Verdict.of hfailure⟩
      simp [runHook, Event.unnoted, HookRun.unnoted, hfailure]

/-! ## Turns -/

def unnotedShown (shown : Standing × Event ν α) : Standing × Event Unit α :=
  (shown.1, shown.2.unnoted)

/-- Two turns that differ in notes and in what hooks share only. -/
structure Turn.Matches (turn turn' : Turn ω ν α σ) : Prop where
  session : turn.session = turn'.session
  events : turn.events.map unnotedShown = turn'.events.map unnotedShown
  exit : turn.exit = turn'.exit

namespace Session

lemma map_unnotedShown_under (standing : Standing) (events : List (Event ν α)) :
    (under standing events).map unnotedShown = under standing (events.map Event.unnoted) := by
  rw [under, under, List.map_map, List.map_map]
  rfl

variable {hooks : Hooks ω ν α σ} (unswayed : hooks.Unswayed) (config : Config)

include unswayed

lemma matches_begin (subscription : Subscription) (env env' : ω) :
    (begin hooks config subscription env : Turn ω ν α σ).Matches
      (begin hooks config subscription env') := by
  unfold begin
  cases hseed : hooks.seed with
  | none => exact ⟨rfl, rfl, rfl⟩
  | some seed =>
      have hresult := unswayed.seed seed hseed env env'
      cases hfirst : (seed env).result with
      | ok state =>
          have hsecond := hresult.symm.trans hfirst
          simp only [hfirst, hsecond, Seeding.failure]
          exact ⟨rfl, rfl, rfl⟩
      | error failure =>
          have hsecond := hresult.symm.trans hfirst
          cases hroute : failure.route with
          | ok error =>
              simp only [hfirst, hsecond, Seeding.failure, hroute]
              exact ⟨rfl, rfl, rfl⟩
          | error fatal =>
              simp only [hfirst, hsecond, Seeding.failure, hroute]
              exact ⟨rfl, rfl, rfl⟩

lemma matches_onNext (parent : Subscription) (state : Option σ) (item : α) (env env' : ω) :
    (onNext hooks config parent state item env).Matches
      (onNext hooks config parent state item env') := by
  have hook : ∀ body ∈ hooks.next.map (· item), ∀ state env env',
      (body state env).Matches state (body state env') := by
    simpa using fun body h => unswayed.next body h item
  have ran := matches_runHook (.next item) hook state env env'
  unfold onNext
  generalize runHook (.next item) (hooks.next.map (· item)) state env = first at ran ⊢
  generalize runHook (.next item) (hooks.next.map (· item)) state env' = second at ran ⊢
  simp only [ran.state, ran.verdict]
  cases second.verdict <;>
    exact ⟨rfl, by simp only [List.map_append, map_unnotedShown_under, ran.events], rfl⟩

lemma matches_onError (parent : Subscription) (state : Option σ) (error : StreamError)
    (env env' : ω) :
    (onError hooks config parent state error env).Matches
      (onError hooks config parent state error env') := by
  have hook : ∀ body ∈ hooks.error.map (· error), ∀ state env env',
      (body state env).Matches state (body state env') := by
    simpa using fun body h => unswayed.error body h error
  have ran := matches_runHook (.error error : Occasion α) hook state env env'
  refine ⟨?_, ?_, ?_⟩
  · simp only [onError, ran.state]
  · simp only [onError, List.map_append, map_unnotedShown_under, ran.events, ran.verdict, ran.state]
  · simp only [onError, ran.verdict]

lemma matches_onComplete (parent : Subscription) (state : Option σ) (env env' : ω) :
    (onComplete hooks config parent state env : Turn ω ν α σ).Matches
      (onComplete hooks config parent state env') := by
  have ran := matches_runHook (.complete : Occasion α) unswayed.complete state env env'
  refine ⟨?_, ?_, ?_⟩
  · simp only [onComplete, ran.state]
  · simp only [onComplete, List.map_append, map_unnotedShown_under, ran.events, ran.verdict,
      ran.state]
  · simp only [onComplete, ran.verdict]

/-- **A turn does not depend on what hooks share**, if they are not swayed by it. -/
theorem matches_turn (session : Session σ) (signal : Signal α) (env env' : ω) :
    (session.turn hooks config signal env).Matches (session.turn hooks config signal env') := by
  cases session with
  | fresh =>
      cases signal with
      | subscribe subscription => exact matches_begin unswayed config subscription env env'
      | _ => exact ⟨rfl, rfl, rfl⟩
  | active parent state =>
      cases signal with
      | subscribe subscription => exact ⟨rfl, rfl, rfl⟩
      | next item => exact matches_onNext unswayed config parent state item env env'
      | error error => exact matches_onError unswayed config parent state error env env'
      | complete => exact matches_onComplete unswayed config parent state env env'
  | terminated parent state => cases signal <;> exact ⟨rfl, rfl, rfl⟩

end Session

/-! ## One subscription -/

/-- Two outcomes that differ in notes and in what hooks share only. -/
structure Outcome.Matches (outcome outcome' : Outcome ω ν α τ) : Prop where
  state : outcome.state = outcome'.state
  trace : unnoted outcome.trace = unnoted outcome'.trace
  escaped : outcome.escaped = outcome'.escaped

namespace Subscriber

/-- Whatever hooks share, every signal comes to the same. -/
def Unswayed (S : Subscriber ω ν α) : Prop :=
  ∀ signal state env env', (S.receive signal state env).Matches (S.receive signal state env')

variable {S : Subscriber ω ν α}

lemma Unswayed.receiveAll (unswayed : S.Unswayed) (signals : List (Signal α)) (state : S.State)
    (env env' : ω) :
    (S.receiveAll signals state env).Matches (S.receiveAll signals state env') := by
  induction signals generalizing state env env' with
  | nil => exact ⟨rfl, rfl, rfl⟩
  | cons signal signals ih =>
      have first := unswayed signal state env env'
      simp only [Subscriber.receiveAll]
      cases hescaped : (S.receive signal state env).escaped with
      | some fatal =>
          rw [Outcome.andThen_of_escaped hescaped,
            Outcome.andThen_of_escaped (first.escaped ▸ hescaped)]
          exact first
      | none =>
          rw [Outcome.andThen_of_not_escaped hescaped,
            Outcome.andThen_of_not_escaped (first.escaped ▸ hescaped), first.state]
          have rest := ih (S.receive signal state env').state (S.receive signal state env).env
            (S.receive signal state env').env
          refine ⟨rest.state, ?_, rest.escaped⟩
          simp only [Outcome.precededBy, unnoted_append, first.trace, rest.trace]

lemma Unswayed.respond (unswayed : S.Unswayed) (stimulus : Stimulus α) (state : S.State)
    (env env' : ω) : (S.respond stimulus state env).Matches (S.respond stimulus state env') := by
  cases stimulus with
  | signal signal => exact unswayed signal state env env'
  | call call => exact ⟨rfl, rfl, rfl⟩

end Subscriber

lemma Consumer.unswayed (C : Consumer α) : (C.subscriber : Subscriber ω ν α).Unswayed :=
  fun _ _ _ _ => ⟨rfl, rfl, rfl⟩

namespace Layer

lemma unnoted_moments (below : List Standing) (events : List (Standing × Event ν α)) :
    unnoted (moments below events) = moments below (events.map unnotedShown) := by
  rw [unnoted, moments, moments, List.map_map, List.map_map]
  rfl

/-- **A layer is not swayed**, if its hooks are not and the subscriber below it is not. -/
lemma unswayed_onto {layer : Layer ω ν α} {actual : Subscriber ω ν α}
    (hooks : layer.hooks.Unswayed) (unswayed : actual.Unswayed) :
    (layer.onto actual).Unswayed := by
  rintro signal ⟨session, below⟩ env env'
  have turn : (layer.turn session signal env).Matches (layer.turn session signal env') :=
    Session.matches_turn hooks layer.config session signal env env'
  have passed : (layer.passedOn actual signal session below env).Matches
      (layer.passedOn actual signal session below env') := by
    rw [passedOn, passedOn, turn.exit]
    exact unswayed.receiveAll _ below _ _
  rw [receive_onto, receive_onto]
  refine ⟨?_, ?_, ?_⟩
  · exact congrArg₂ Prod.mk turn.session passed.state
  · simp only [unnoted_append, unnoted_map_beneath, passed.trace, turn.session, ownMoments,
      unnoted_moments, List.map_cons, turn.events]
  · simp only [turn.exit, passed.escaped]

/-- A stack is not swayed if none of its hooks is. -/
theorem unswayed_stack (C : Consumer α) : ∀ {layers : List (Layer ω ν α)},
    (∀ layer ∈ layers, layer.hooks.Unswayed) → (stack layers C.subscriber).Unswayed
  | [], _ => C.unswayed
  | _ :: _, hooks =>
    have ⟨first, rest⟩ := List.forall_mem_cons.mp hooks
    unswayed_onto first (unswayed_stack C rest)

end Layer

/-! ## Seeds -/

/-- How often the seed of a layer runs in the course of a trace. -/
def seedings (layer : ℕ) (trace : List (Moment ν α)) : ℕ :=
  (hookRunsAt layer trace).countP (·.kind = .subscribe)

@[simp] lemma seedings_append (layer : ℕ) (first second : List (Moment ν α)) :
    seedings layer (first ++ second) = seedings layer first + seedings layer second := by
  rw [seedings, hookRunsAt_append, List.countP_append, seedings, seedings]

@[simp] lemma seedings_unnoted (layer : ℕ) (trace : List (Moment ν α)) :
    seedings layer (unnoted trace) = seedings layer trace := by
  rw [seedings, hookRunsAt_unnoted, List.countP_map]
  rfl

/-- How often the seed has run when a session stands so: once if there is a seed, as soon as the
session has begun. -/
def Session.seedings (hooks : Hooks ω ν α σ) (session : Session σ) : ℕ :=
  if session.parent?.isSome then hooks.seed.isSome.toNat else 0

/-- **A seed runs where the session begins**, and at no other time. -/
lemma Conduct.seedings_eq {hooks : Hooks ω ν α σ} {config : Config} {session session' : Session σ}
    {signal : Signal α} {events : List (Standing × Event ν α)} {exit : Exit α}
    (conduct : Conduct hooks config session signal events session' exit) :
    session'.seedings hooks = session.seedings hooks
      + (events.filterMap (·.2.hookRun?)).countP (·.kind = .subscribe) := by
  have hcount : (events.filterMap (·.2.hookRun?)).countP (·.kind = .subscribe)
      = ((events.filterMap (·.2.hookRun?)).map (·.occasion)).countP (·.kind = .subscribe) := by
    rw [List.countP_map]
    rfl
  rw [hcount, conduct.occasions, Session.seedings, conduct.parent?_eq, Session.seedings]
  cases session with
  | fresh =>
      cases signal with
      | subscribe parent =>
          cases hseed : hooks.seed <;>
            simp [Session.accepts, Session.parent?, Signal.subscription?, Signal.kind,
              Hooks.watches, Signal.occasion, Occasion.kind, hseed]
      | _ => simp [Session.accepts, Session.parent?, Signal.subscription?]
  | active parent state =>
      cases hooks.watches signal.kind <;> cases signal <;>
        simp [Session.accepts, Session.parent?, Signal.occasion, Occasion.kind]
  | terminated parent state => cases signal <;> simp [Session.accepts, Session.parent?]

namespace Layer

variable (layer : Layer ω ν α) (actual : Subscriber ω ν α)

lemma seedings_sessionOf_history (stimuli : List (Stimulus α)) (env : ω) :
    seedings 0 ((layer.onto actual).history stimuli env).trace
      = (layer.sessionOf actual ((layer.onto actual).history stimuli env).state).seedings
          layer.hooks := by
  refine layer.session_induction actual
    (motive := fun session runs => runs.countP (·.kind = .subscribe)
      = session.seedings layer.hooks) rfl ?turn stimuli env
  case turn =>
    intro session runs signal env ih
    rw [List.countP_append, ih]
    exact (layer.conduct session signal env).seedings_eq.symm

/-- **The seed runs once** if there is one, when the first subscription comes. -/
lemma seedings_history (stimuli : List (Stimulus α)) (env : ω) :
    seedings 0 ((layer.onto actual).history stimuli env).trace
      = if subscriptions stimuli = [] then 0 else layer.hooks.seed.isSome.toNat := by
  rw [seedings_sessionOf_history, Session.seedings, parent?_history]
  cases subscriptions stimuli <;> rfl

end Layer

/-! ## Many subscriptions -/

/-- Two runs that differ in notes and in what hooks share only. -/
structure Run.Matches (run run' : Run ω ν α τ) : Prop where
  state : run.state = run'.state
  trace : unnoted run.trace = unnoted run'.trace
  results : run.results = run'.results

lemma Run.Matches.extend {run run' : Run ω ν α τ} (runs : run.Matches run')
    {outcome outcome' : Outcome ω ν α τ} (outcomes : outcome.Matches outcome') :
    (run.extend outcome).Matches (run'.extend outcome') := by
  refine ⟨outcomes.state, ?_, ?_⟩
  · simp only [Run.extend, unnoted_append, runs.trace, outcomes.trace]
  · simp only [Run.extend, runs.results, outcomes.escaped]

section Family

variable {ι : Type} [DecidableEq ι] {S : ι → Subscriber ω ν α}

/-- Subscriptions in the course of their lives, and what their hooks share by now. -/
structure Family (S : ι → Subscriber ω ν α) where
  env : ω
  runs : ∀ i, Run ω ν α (S i).State

/-- The stimuli that are meant for one member. -/
def own (i : ι) (calls : List (ι × Stimulus α)) : List (Stimulus α) :=
  (calls.filter (·.1 = i)).map Prod.snd

lemma own_concat_self (past : List (ι × Stimulus α)) (call : ι × Stimulus α) :
    own call.1 (past ++ [call]) = own call.1 past ++ [call.2] := by
  simp [own, List.filter_append]

lemma own_concat_of_ne (past : List (ι × Stimulus α)) {call : ι × Stimulus α} {i : ι}
    (h : i ≠ call.1) : own i (past ++ [call]) = own i past := by
  simp [own, List.filter_append, h.symm]

namespace Family

def start (S : ι → Subscriber ω ν α) (env : ω) : Family S :=
  { env, runs := fun i => .start (S i).init env }

/-- One member takes a stimulus, and finds what hooks share as the last one left it. -/
def respond (family : Family S) (call : ι × Stimulus α) : Family S :=
  let outcome := (S call.1).respond call.2 (family.runs call.1).state family.env
  { env := outcome.env
    runs := Function.update family.runs call.1 ((family.runs call.1).extend outcome) }

/-- What calls come to, for one member after the other in any order. -/
def history (S : ι → Subscriber ω ν α) (calls : List (ι × Stimulus α)) (env : ω) : Family S :=
  calls.foldl respond (start S env)

lemma history_concat (calls : List (ι × Stimulus α)) (call : ι × Stimulus α) (env : ω) :
    history S (calls ++ [call]) env = (history S calls env).respond call := by
  rw [history, List.foldl_append]
  rfl

lemma runs_respond_self (family : Family S) (call : ι × Stimulus α) :
    (family.respond call).runs call.1 = (family.runs call.1).extend
      ((S call.1).respond call.2 (family.runs call.1).state family.env) :=
  Function.update_self _ _ _

/-- A call is no concern of the other members. -/
lemma runs_respond_of_ne (family : Family S) {call : ι × Stimulus α} {i : ι} (h : i ≠ call.1) :
    (family.respond call).runs i = family.runs i :=
  Function.update_of_ne h _ _

/-- **A member comes to what its own calls come to**, if none of the subscribers is swayed. -/
theorem matches_history (unswayed : ∀ i, (S i).Unswayed) (calls : List (ι × Stimulus α))
    (env env' : ω) (i : ι) :
    ((history S calls env).runs i).Matches ((S i).history (own i calls) env') := by
  induction calls using List.reverseRecOn with
  | nil => exact ⟨rfl, rfl, rfl⟩
  | append_singleton past call ih =>
      rw [history_concat]
      by_cases hmember : i = call.1
      · subst hmember
        rw [own_concat_self, Subscriber.history_concat, runs_respond_self]
        refine ih.extend ?_
        rw [Subscriber.after, ih.state]
        exact (unswayed call.1).respond call.2 _ _ _
      · rw [own_concat_of_ne past hmember, runs_respond_of_ne _ hmember]
        exact ih

end Family

end Family

namespace Layer

/-- **Subscriptions of one operator do not interfere.**  Consumers are subscribed through the same
layer, with any layers behind it, and no hook is swayed by what hooks share.  Whatever calls their
subscriptions take, in whatever order, each of them ends in the state, answers the calls and shows
the signals and the calls towards its source that it would without the others, and its seed runs
once.  A call on one of them leaves all others as they are. -/
theorem separate_history {ι : Type} [DecidableEq ι] (layer : Layer ω ν α)
    (layers : List (Layer ω ν α)) (C : ι → Consumer α) (calls : List (ι × Stimulus α))
    (env env' : ω) :
    let S := fun i => layer.onto (stack layers (C i).subscriber)
    let family := Family.history S calls env
    (∀ below ∈ layer :: layers, below.hooks.Unswayed) →
      (∀ i,
        let run := family.runs i
        let alone := (S i).history (own i calls) env'
        run.Matches alone
          ∧ (∀ depth, signalsAt depth run.trace = signalsAt depth alone.trace)
          ∧ (∀ channel, callsTo channel run.trace = callsTo channel alone.trace)
          ∧ seedings 0 run.trace
            = if subscriptions (own i calls) = [] then 0 else layer.hooks.seed.isSome.toNat)
      ∧ ∀ call i, i ≠ call.1 → (family.respond call).runs i = family.runs i := by
  intro S family hooks
  have unswayed : ∀ i, (S i).Unswayed := fun i => unswayed_stack (C i) hooks
  refine ⟨fun i => ?_, fun call i h => family.runs_respond_of_ne h⟩
  intro run alone
  have matching : run.Matches alone := Family.matches_history unswayed calls env env' i
  refine ⟨matching, fun depth => ?_, fun channel => ?_, ?_⟩
  · rw [← signalsAt_unnoted, matching.trace, signalsAt_unnoted]
  · rw [← callsTo_unnoted, matching.trace, callsTo_unnoted]
  · rw [← seedings_unnoted, matching.trace, seedings_unnoted]
    exact layer.seedings_history _ (own i calls) env'

/-- A layer that counts the items of each subscription, and notes down how many hooks have run in
all subscriptions together.  It fails over the item zero. -/
def tallying (cause : Cause) : Layer ℕ ℕ ℕ where
  State := ℕ
  hooks :=
    { seed := some fun count => { result := .ok 0, note := count, env := count + 1 }
      next := some fun item _ count =>
        { effect := (· + 1)
          failure := if item = 0 then some (.propagate cause) else none
          note := count
          env := count + 1 }
      error := none
      complete := none }
  config := .standard

lemma unswayed_tallying (cause : Cause) : (tallying cause).hooks.Unswayed where
  seed := by
    rintro _ ⟨⟩ env env'
    rfl
  next := by
    rintro _ ⟨⟩ item state env env'
    exact ⟨rfl, rfl⟩
  error := nofun
  complete := nofun

/-- One of two subscriptions fails while the other goes on.  The hooks of the one that goes on have
noted down that they were not alone, and there is no other difference. -/
theorem separate_of_tallying :
    let rest : List (Layer ℕ ℕ ℕ) := []
    let actual : Subscriber ℕ ℕ ℕ := stack rest (Consumer.asking 0).subscriber
    let layer := tallying (.mk 0 (.message "stop"))
    let S := fun _ : Bool => layer.onto actual
    let calls : List (Bool × Stimulus ℕ) :=
      [(false, .signal (.subscribe (.direct 0))), (true, .signal (.subscribe (.direct 1))),
        (true, .signal (.next 0)), (false, .signal (.next 5)), (true, .signal (.next 6))]
    let family := Family.history S calls 0
    let run := family.runs false
    let alone := (S false).history (own false calls) 0
    (∀ below ∈ layer :: rest, below.hooks.Unswayed)
      ∧ (hookRunsAt 0 run.trace).map (·.note) = [0, 3]
      ∧ (hookRunsAt 0 alone.trace).map (·.note) = [0, 1]
      ∧ (layer.sessionOf actual (family.runs true).state).phase = .terminated
      ∧ run.Matches alone
      ∧ signalsAt 1 run.trace = signalsAt 1 alone.trace
      ∧ callsTo 1 run.trace = callsTo 1 alone.trace
      ∧ seedings 0 run.trace = 1
      ∧ (family.respond (true, .signal .complete)).runs false = run := by
  intro rest actual layer S calls family run alone
  have hooks : ∀ below ∈ layer :: rest, below.hooks.Unswayed :=
    List.forall_mem_singleton.mpr (unswayed_tallying _)
  obtain ⟨members, others⟩ :=
    separate_history layer rest (fun _ : Bool => Consumer.asking 0) calls 0 0 hooks
  obtain ⟨matching, heard, called, seeded⟩ := members false
  exact ⟨hooks, rfl, rfl, rfl, matching, heard 1, called 1, seeded,
    others (true, .signal .complete) false (by decide)⟩

end Layer

end SignalPeek
