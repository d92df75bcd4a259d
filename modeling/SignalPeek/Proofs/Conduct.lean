import Mathlib.Tactic.Common
import SignalPeek.Proofs.Reception
import SignalPeek.Proofs.Run

/-!
# What a turn shows

`Passage` says what a turn comes to and leaves out its events.  `Conduct` has the events as well:
which hook ran and how it ended, what notice was given, and which calls the layer made itself.

**Four conducts.**  A signal that is not due is refused.  A signal that is due meets at most one
hook, and there are three ways from there: it is passed on, an error takes its place, or a fatal
error escapes.  That a turn is always one of the four is said once (`conduct_turn`), and what later
files say about hook runs, fatal errors and calls is read off by cases.

**What is one for all signals.**  The four kinds of signal differ in what the hook is called for
(`Signal.occasion`), in what takes the place of the signal (`Signal.substitutes`), in the words of
the notice (`Signal.failureNotice`), and in whether the parent is cancelled (`Signal.withdrawal`):
only a failure over an item cancels it.
-/

namespace SignalPeek

variable {ω ν α σ : Type}

/-! ## What the kinds of signal differ in -/

/-- What a hook is called for when a signal arrives. -/
def Signal.occasion : Signal α → Occasion α
  | .subscribe _ => .seed
  | .next item => .next item
  | .error given => .error given
  | .complete => .complete

/-- The kind of signal that a hook is called for. -/
def Occasion.kind : Occasion α → SignalKind
  | .seed => .subscribe
  | .next _ => .next
  | .error _ => .error
  | .complete => .complete

@[simp] lemma Signal.kind_occasion (signal : Signal α) : signal.occasion.kind = signal.kind := by
  cases signal <;> rfl

/-- The run of the hook for a signal. -/
def Signal.run (signal : Signal α) (failure : Option HookError) (note : ν) : HookRun ν α :=
  { occasion := signal.occasion, failure, note }

/-- A signal as it is passed on: a layer hands on a relay of its own subscription. -/
def Signal.relayed : Signal α → Signal α
  | .subscribe parent => .subscribe (.relay parent)
  | signal => signal

/-- The signals that take the place of one over which a hook failed recoverably. -/
def Signal.substitutes (signal : Signal α) (error : StreamError) : List (Signal α) :=
  match signal with
  | .subscribe _ => [.subscribe .inert, .error error]
  | .next _ | .complete => [.error error]
  | .error given => [.error (error.withSuppressed given)]

/-- The notice of a recoverable failure over a signal. -/
def Signal.failureNotice (signal : Signal α) (error : StreamError) : Notice :=
  match signal with
  | .subscribe _ => .seedFailed error
  | .next _ => .nextHookFailed error
  | .error given => .errorHookFailed error given
  | .complete => .completeHookFailed error

/-- The calls that a layer makes itself when its hook has failed over a signal. -/
def Signal.withdrawal (signal : Signal α) (parent : Subscription) : List (Event ν α) :=
  match signal with
  | .next _ => parent.called [.cancel]
  | _ => []

/-- The hook for a signal of this kind is there. -/
def Hooks.watches (hooks : Hooks ω ν α σ) : SignalKind → Bool
  | .subscribe => hooks.seed.isSome
  | .next => hooks.next.isSome
  | .error => hooks.error.isSome
  | .complete => hooks.complete.isSome

/-- A hook may fail in this way over a signal, in one state or another. -/
def Hooks.FailsOver (hooks : Hooks ω ν α σ) (signal : Signal α) (failure : HookError) : Prop :=
  match signal with
  | .subscribe _ => ∃ seed ∈ hooks.seed, ∃ env, (seed env).result = .error failure
  | .next item => ∃ hook ∈ hooks.next, ∃ state env, (hook item state env).failure = some failure
  | .error error =>
    ∃ hook ∈ hooks.error, ∃ state env, (hook error state env).failure = some failure
  | .complete => ∃ hook ∈ hooks.complete, ∃ state env, (hook state env).failure = some failure

/-- A hook that fails is there. -/
lemma Hooks.FailsOver.watches {hooks : Hooks ω ν α σ} {signal : Signal α} {failure : HookError}
    (fails : hooks.FailsOver signal failure) : hooks.watches signal.kind = true := by
  cases signal <;>
  · obtain ⟨hook, hhook, _⟩ := fails
    exact Option.isSome_of_mem hhook

/-! ## Hooks that may be absent -/

/-- What becomes of a hook that may be absent: the events that it shows, and the verdict. -/
inductive Consulted (occasion : Occasion α) (present : Bool) (fails : HookError → Prop) :
    List (Event ν α) → Verdict → Prop where
  | passed (note : Option ν) (there : present = note.isSome) :
      Consulted occasion present fails
        (note.toList.map fun note => .hook { occasion, failure := none, note }) .pass
  | replaced (note : ν) {failure : HookError} {error : StreamError} (failed : fails failure)
      (route : failure.route = .ok error) :
      Consulted occasion present fails [.hook { occasion, failure := some failure, note }]
        (.replace error)
  | escaped (note : ν) {failure : HookError} {fatal : Fatal} (failed : fails failure)
      (route : failure.route = .error fatal) :
      Consulted occasion present fails [.hook { occasion, failure := some failure, note }]
        (.escape fatal)

lemma consulted_runHook (occasion : Occasion α) (hook : Option (Option σ → ω → Reply ω ν σ))
    (state : Option σ) (env : ω) :
    Consulted occasion hook.isSome
      (fun failure => ∃ body ∈ hook, ∃ state env, (body state env).failure = some failure)
      (runHook occasion hook state env).events (runHook occasion hook state env).verdict := by
  cases hook with
  | none => exact .passed none rfl
  | some body =>
      cases hfailure : (body state env).failure with
      | none =>
          simp only [runHook, hfailure, Verdict.of]
          exact .passed (some (body state env).note) rfl
      | some failure =>
          have failed :
              ∃ body' ∈ some body, ∃ state env, (body' state env).failure = some failure :=
            ⟨body, rfl, state, env, hfailure⟩
          cases hroute : failure.route with
          | ok error =>
              simp only [runHook, hfailure, Verdict.of, hroute]
              exact .replaced _ failed hroute
          | error fatal =>
              simp only [runHook, hfailure, Verdict.of, hroute]
              exact .escaped _ failed hroute

/-! ## Turns -/

namespace Session

/-- A signal is due, and this is the parent of the session once it is taken. -/
inductive Due : Session σ → Signal α → Subscription → Prop where
  | opening (parent : Subscription) : Due .fresh (.subscribe parent) parent
  | ongoing (parent : Subscription) (state : Option σ) {signal : Signal α}
      (accepted : (active parent state).accepts signal = true) :
      Due (.active parent state) signal parent

lemma Due.accepts {session : Session σ} {signal : Signal α} {parent : Subscription}
    (due : session.Due signal parent) : session.accepts signal = true := by
  cases due with
  | opening parent => rfl
  | ongoing parent state accepted => exact accepted

/-- An active session takes no further subscription. -/
lemma kind_ne_of_active {parent : Subscription} {state : Option σ} {signal : Signal α}
    (accepted : (active parent state).accepts signal = true) : signal.kind ≠ .subscribe := by
  cases signal <;> simp [accepts, Signal.kind] at accepted ⊢

/-- The standing under which the hook for a signal runs: the phase is still that before the signal,
and the parent is in place already. -/
def watching (session : Session σ) (parent : Subscription) : Standing :=
  { phase := session.phase, parent := some parent }

/-- The session once a signal has gone through it. -/
def after (signal : Signal α) (parent : Subscription) (state : Option σ) : Session σ :=
  if signal.isTerminal then .terminated parent state else .active parent state

/-- The standing of a session that has ended. -/
def endedStanding (parent : Subscription) : Standing :=
  { phase := .terminated, parent := some parent }

end Session

open Session

/-- What a turn can show, and what it comes to. -/
inductive Conduct (hooks : Hooks ω ν α σ) (config : Config) (session : Session σ)
    (signal : Signal α) : List (Standing × Event ν α) → Session σ → Exit α → Prop where
  /-- The signal is not due, and nothing comes of it. -/
  | refused (undue : session.accepts signal = false) :
      Conduct hooks config session signal
        (under session.standing (refusal config session.phase signal)) session (.forward [])
  /-- The signal goes on.  If there is a hook for it, it ran and did not fail. -/
  | passed {parent : Subscription} (due : session.Due signal parent) (note : Option ν)
      (there : hooks.watches signal.kind = note.isSome) (state : Option σ) :
      Conduct hooks config session signal
        (under (session.watching parent)
          (note.toList.map fun note => .hook (signal.run none note)))
        (after signal parent state) (.forward [signal.relayed])
  /-- The hook failed recoverably, and an error takes the place of the signal. -/
  | replaced {parent : Subscription} (due : session.Due signal parent) (note : ν)
      {failure : HookError} {error : StreamError} (fails : hooks.FailsOver signal failure)
      (route : failure.route = .ok error) (state : Option σ) :
      Conduct hooks config session signal
        (under (session.watching parent) [.hook (signal.run (some failure) note)]
          ++ under (endedStanding parent)
            (.notice config.name (signal.failureNotice error) :: signal.withdrawal parent))
        (.terminated parent state) (.forward (signal.substitutes error))
  /-- The hook failed for good, and nothing goes on. -/
  | escaped {parent : Subscription} (due : session.Due signal parent) (note : ν)
      {failure : HookError} {fatal : Fatal} (fails : hooks.FailsOver signal failure)
      (route : failure.route = .error fatal) (state : Option σ) :
      Conduct hooks config session signal
        (under (session.watching parent) [.hook (signal.run (some failure) note)]
          ++ under (endedStanding parent)
            [.notice config.name (.fatalEscaping signal.kind fatal)])
        (.terminated parent state) (.escape fatal)

namespace Session

variable (hooks : Hooks ω ν α σ) (config : Config)

lemma conduct_begin (parent : Subscription) (env : ω) :
    Conduct hooks config (.fresh : Session σ) (.subscribe parent : Signal α)
      (begin hooks config parent env).events (begin hooks config parent env).session
      (begin hooks config parent env).exit := by
  have due : (fresh : Session σ).Due (.subscribe parent : Signal α) parent := .opening parent
  unfold begin
  cases hseed : hooks.seed with
  | none => exact .passed due none (by simp [Hooks.watches, Signal.kind, hseed]) none
  | some seed =>
      cases hresult : (seed env).result with
      | ok state =>
          simp only [hresult, Seeding.failure]
          exact .passed due (some (seed env).note)
            (by simp [Hooks.watches, Signal.kind, hseed]) (some state)
      | error failure =>
          have fails : hooks.FailsOver (.subscribe parent) failure := ⟨seed, hseed, env, hresult⟩
          cases hroute : failure.route with
          | ok error =>
              simp only [hresult, Seeding.failure, hroute]
              exact .replaced due _ fails hroute none
          | error fatal =>
              simp only [hresult, Seeding.failure, hroute]
              exact .escaped due _ fails hroute none

lemma conduct_onNext (parent : Subscription) (state : Option σ) (item : α) (env : ω) :
    Conduct hooks config (.active parent state) (.next item)
      (onNext hooks config parent state item env).events
      (onNext hooks config parent state item env).session
      (onNext hooks config parent state item env).exit := by
  have due : (active parent state).Due (.next item) parent := .ongoing parent state rfl
  have consulted := consulted_runHook (.next item) (hooks.next.map (· item)) state env
  unfold onNext
  generalize runHook (.next item) (hooks.next.map (· item)) state env = ran at consulted ⊢
  obtain ⟨state', env', events, verdict⟩ := ran
  cases consulted with
  | passed note there =>
      exact .passed due note (by simpa [Hooks.watches, Signal.kind] using there) state'
  | replaced note failed route =>
      exact .replaced due note (by simpa [Hooks.FailsOver] using failed) route state'
  | escaped note failed route =>
      exact .escaped due note (by simpa [Hooks.FailsOver] using failed) route state'

lemma conduct_onError (parent : Subscription) (state : Option σ) (error : StreamError) (env : ω) :
    Conduct hooks config (.active parent state) (.error error)
      (onError hooks config parent state error env).events
      (onError hooks config parent state error env).session
      (onError hooks config parent state error env).exit := by
  have due : (active parent state).Due (.error error : Signal α) parent := .ongoing parent state rfl
  have consulted :=
    consulted_runHook (.error error : Occasion α) (hooks.error.map (· error)) state env
  unfold onError
  generalize runHook (.error error) (hooks.error.map (· error)) state env = ran at consulted ⊢
  obtain ⟨state', env', events, verdict⟩ := ran
  cases consulted with
  | passed note there =>
      simp only [under, List.map_nil, List.append_nil]
      exact .passed due note (by simpa [Hooks.watches, Signal.kind] using there) state'
  | replaced note failed route =>
      exact .replaced due note (by simpa [Hooks.FailsOver] using failed) route state'
  | escaped note failed route =>
      exact .escaped due note (by simpa [Hooks.FailsOver] using failed) route state'

lemma conduct_onComplete (parent : Subscription) (state : Option σ) (env : ω) :
    Conduct hooks config (.active parent state) (.complete : Signal α)
      (onComplete hooks config parent state env).events
      (onComplete hooks config parent state env).session
      (onComplete hooks config parent state env).exit := by
  have due : (active parent state).Due (.complete : Signal α) parent := .ongoing parent state rfl
  have consulted := consulted_runHook (.complete : Occasion α) hooks.complete state env
  unfold onComplete
  generalize runHook .complete hooks.complete state env = ran at consulted ⊢
  obtain ⟨state', env', events, verdict⟩ := ran
  cases consulted with
  | passed note there =>
      simp only [under, List.map_nil, List.append_nil]
      exact .passed due note there state'
  | replaced note failed route => exact .replaced due note failed route state'
  | escaped note failed route => exact .escaped due note failed route state'

/-- **Every turn is a conduct.** -/
theorem conduct_turn (session : Session σ) (signal : Signal α) (env : ω) :
    Conduct hooks config session signal (session.turn hooks config signal env).events
      (session.turn hooks config signal env).session
      (session.turn hooks config signal env).exit := by
  cases hdue : session.accepts signal with
  | false =>
      rw [turn_of_not_accepts hooks config hdue env]
      exact .refused hdue
  | true =>
      cases session with
      | fresh =>
          cases signal with
          | subscribe parent => exact conduct_begin hooks config parent env
          | _ => simp [accepts] at hdue
      | active parent state =>
          cases signal with
          | subscribe _ => simp [accepts] at hdue
          | next item => exact conduct_onNext hooks config parent state item env
          | error error => exact conduct_onError hooks config parent state error env
          | complete => exact conduct_onComplete hooks config parent state env
      | terminated parent state => cases signal <;> simp [accepts] at hdue

end Session

/-! ## Views of the events of a turn -/

@[simp] lemma Session.filterMap_under {β : Type} (view : Event ν α → Option β) (standing : Standing)
    (events : List (Event ν α)) :
    (under standing events).filterMap (fun shown => view shown.2) = events.filterMap view := by
  rw [under, List.filterMap_map]
  rfl

@[simp] lemma filterMap_hookRun?_refusal (config : Config) (phase : Phase) (signal : Signal α) :
    (refusal config phase signal : List (Event ν α)).filterMap Event.hookRun? = [] :=
  List.filterMap_eq_nil_iff.mpr fun event h => (own_of_mem_refusal config phase signal event h).2

lemma eq_called_of_mem_withdrawal {signal : Signal α} {parent : Subscription} {event : Event ν α}
    (h : event ∈ signal.withdrawal parent) : ∃ channel call, event = .called channel call := by
  cases signal with
  | next item => exact eq_called_of_mem h
  | _ => simp [Signal.withdrawal] at h

@[simp] lemma filterMap_hookRun?_withdrawal (signal : Signal α) (parent : Subscription) :
    (signal.withdrawal parent : List (Event ν α)).filterMap Event.hookRun? = [] := by
  refine List.filterMap_eq_nil_iff.mpr fun event h => ?_
  obtain ⟨channel, call, rfl⟩ := eq_called_of_mem_withdrawal h
  rfl

/-- A hook runs about a signal that is due, and by itself.  If it fails the session has ended
afterwards, and if it fails for good nothing is passed on. -/
lemma Conduct.of_mem_hookRuns {hooks : Hooks ω ν α σ} {config : Config}
    {session session' : Session σ} {signal : Signal α} {events : List (Standing × Event ν α)}
    {exit : Exit α} (conduct : Conduct hooks config session signal events session' exit)
    {run : HookRun ν α} (h : run ∈ events.filterMap (·.2.hookRun?)) :
    (∃ parent, session.Due signal parent) ∧ run.occasion = signal.occasion
      ∧ events.filterMap (·.2.hookRun?) = [run]
      ∧ (run.failure ≠ none → session'.phase = .terminated)
      ∧ ∀ failure, run.failure = some failure → failure.severity = .fatal → exit.signals = [] := by
  cases conduct with
  | refused undue => simp at h
  | passed due note there state =>
      cases note with
      | none => simp at h
      | some note =>
          obtain rfl : run = signal.run none note := by simpa using h
          exact ⟨⟨_, due⟩, rfl, by simp, fun failed => absurd rfl failed,
            fun failure failed => absurd failed.symm (Option.some_ne_none failure)⟩
  | @replaced parent due note failure error fails route state =>
      obtain rfl : run = signal.run (some failure) note := by
        simpa [List.filterMap_cons] using h
      refine ⟨⟨_, due⟩, rfl, by simp [List.filterMap_cons], fun _ => rfl, ?_⟩
      intro failure' failed fatal
      obtain rfl : failure = failure' := Option.some.inj failed
      rw [HookError.severity_of_route route] at fatal
      simp at fatal
  | @escaped parent due note failure fatal fails route state =>
      obtain rfl : run = signal.run (some failure) note := by
        simpa [List.filterMap_cons] using h
      exact ⟨⟨_, due⟩, rfl, by simp [List.filterMap_cons], fun _ => rfl, fun _ _ _ => rfl⟩

namespace Layer

/-- What a layer does about a signal is a conduct of its session. -/
lemma conduct (layer : Layer ω ν α) (session : Session layer.State) (signal : Signal α) (env : ω) :
    Conduct layer.hooks layer.config session signal (layer.turn session signal env).events
      (layer.turn session signal env).session (layer.turn session signal env).exit :=
  Session.conduct_turn layer.hooks layer.config session signal env

/-- The session of a layer after a signal is the one that its turn leaves. -/
lemma sessionOf_receive (layer : Layer ω ν α) (actual : Subscriber ω ν α) (signal : Signal α)
    (state : (layer.onto actual).State) (env : ω) :
    layer.sessionOf actual ((layer.onto actual).receive signal state env).state
      = (layer.turn (layer.sessionOf actual state) signal env).session := by
  obtain ⟨session, below⟩ := state
  rw [receive_onto]
  rfl

lemma passedOn_of_signals_eq_nil {layer : Layer ω ν α} {actual : Subscriber ω ν α}
    {signal : Signal α} {session : Session layer.State} {env : ω}
    (h : (layer.turn session signal env).exit.signals = []) (below : actual.State) :
    layer.passedOn actual signal session below env
      = .idle below (layer.turn session signal env).env := by
  rw [passedOn, h, Subscriber.receiveAll]

lemma hookRunsAt_zero_receive_onto (layer : Layer ω ν α) (actual : Subscriber ω ν α)
    (signal : Signal α) (session : Session layer.State) (below : actual.State) (env : ω) :
    hookRunsAt 0 ((layer.onto actual).receive signal (session, below) env).trace
      = (layer.turn session signal env).events.filterMap (·.2.hookRun?) := by
  rw [receive_onto]
  simp only [hookRunsAt_append, hookRunsAt_zero_map_beneath, List.append_nil]
  rw [hookRunsAt, ownMoments, moments, List.filterMap_map]
  rfl

end Layer

/-! ## The parent -/

def Signal.subscription? : Signal α → Option Subscription
  | .subscribe subscription => some subscription
  | _ => none

lemma Signal.subscription?_eq_none {signal : Signal α} (other : signal.kind ≠ .subscribe) :
    signal.subscription? = none := by
  cases signal with
  | subscribe _ => exact absurd rfl other
  | _ => rfl

def Stimulus.subscription? : Stimulus α → Option Subscription
  | .signal s => s.subscription?
  | .call _ => none

/-- The subscriptions that come with stimuli, in order. -/
def subscriptions (stimuli : List (Stimulus α)) : List Subscription :=
  stimuli.filterMap Stimulus.subscription?

@[simp] lemma subscriptions_concat (past : List (Stimulus α)) (stimulus : Stimulus α) :
    subscriptions (past ++ [stimulus]) = subscriptions past ++ stimulus.subscription?.toList := by
  cases h : stimulus.subscription? <;> simp [subscriptions, h]

lemma Session.Due.parent_eq {session : Session σ} {signal : Signal α} {parent : Subscription}
    (due : session.Due signal parent) :
    session.parent?.or signal.subscription? = some parent := by
  cases due with
  | opening parent => rfl
  | ongoing parent state accepted => rfl

/-- A session keeps its parent, and takes the first that is offered. -/
lemma Conduct.parent?_eq {hooks : Hooks ω ν α σ} {config : Config} {session session' : Session σ}
    {signal : Signal α} {events : List (Standing × Event ν α)} {exit : Exit α}
    (conduct : Conduct hooks config session signal events session' exit) :
    session'.parent? = session.parent?.or signal.subscription? := by
  cases conduct with
  | refused undue =>
      cases session with
      | fresh => cases signal <;> first | rfl | simp [Session.accepts] at undue
      | active parent state => rfl
      | terminated parent state => rfl
  | passed due note there state =>
      rw [due.parent_eq]
      unfold Session.after
      split <;> rfl
  | replaced due note fails route state => rw [due.parent_eq]; rfl
  | escaped due note fails route state => rw [due.parent_eq]; rfl

/-- Over a signal that was due, the session has its parent. -/
lemma Conduct.parent?_of_due {hooks : Hooks ω ν α σ} {config : Config}
    {session session' : Session σ} {signal : Signal α} {events : List (Standing × Event ν α)}
    {exit : Exit α} (conduct : Conduct hooks config session signal events session' exit)
    {parent : Subscription} (due : session.Due signal parent) :
    session'.parent? = some parent :=
  conduct.parent?_eq.trans due.parent_eq

namespace Layer

/-- **The parent of a layer** is the first subscription that it was offered, after any run. -/
theorem parent?_history (layer : Layer ω ν α) (actual : Subscriber ω ν α)
    (stimuli : List (Stimulus α)) (env : ω) :
    (layer.sessionOf actual ((layer.onto actual).history stimuli env).state).parent?
      = (subscriptions stimuli).head? := by
  refine (layer.onto actual).run_induction
    (motive := fun stimuli run => (layer.sessionOf actual run.state).parent?
      = (subscriptions stimuli).head?) ?start ?step stimuli
  case start => rfl
  case step =>
    intro past run stimulus ih
    rw [subscriptions_concat, List.head?_append, Option.head?_toList, ← ih]
    cases stimulus with
    | signal signal =>
        have conduct := layer.conduct (layer.sessionOf actual run.state) signal run.env
        exact (congrArg Session.parent? (layer.sessionOf_receive actual signal _ _)).trans
          conduct.parent?_eq
    | call call => exact (Option.or_none).symm

end Layer

/-! ## With and without a failure -/

/-- Where no hook failed, a signal that was due goes on, and its hook ran if there is one. -/
lemma Conduct.of_calm {hooks : Hooks ω ν α σ} {config : Config} {session session' : Session σ}
    {signal : Signal α} {events : List (Standing × Event ν α)} {exit : Exit α}
    (conduct : Conduct hooks config session signal events session' exit) {parent : Subscription}
    (due : session.Due signal parent)
    (calm : ∀ run ∈ events.filterMap (·.2.hookRun?), run.failure = none) :
    exit = .forward [signal.relayed] ∧ ∃ (note : Option ν) (state : Option σ),
      hooks.watches signal.kind = note.isSome
      ∧ events = under (session.watching parent)
        (note.toList.map fun note => .hook (signal.run none note))
      ∧ session' = after signal parent state := by
  cases conduct with
  | refused undue => simp [due.accepts] at undue
  | @passed parent' due' note there state =>
      obtain rfl : parent' = parent := Option.some.inj (due'.parent_eq.symm.trans due.parent_eq)
      exact ⟨rfl, note, state, there, rfl, rfl⟩
  | @replaced parent' due' note failure error fails route state =>
      have hnone := calm (signal.run (some failure) note) (by simp [List.filterMap_cons])
      exact absurd hnone (Option.some_ne_none failure)
  | @escaped parent' due' note failure fatal fails route state =>
      have hnone := calm (signal.run (some failure) note) (by simp [List.filterMap_cons])
      exact absurd hnone (Option.some_ne_none failure)

/-- Where a hook failed, the session has ended, and the failure decides between the two exits. -/
lemma Conduct.of_failure {hooks : Hooks ω ν α σ} {config : Config} {session session' : Session σ}
    {signal : Signal α} {events : List (Standing × Event ν α)} {exit : Exit α}
    (conduct : Conduct hooks config session signal events session' exit)
    {run : HookRun ν α} (h : run ∈ events.filterMap (·.2.hookRun?)) {failure : HookError}
    (failed : run.failure = some failure) :
    ∃ parent state, session.Due signal parent ∧ session' = .terminated parent state
      ∧ ((∃ fatal, failure.route = .error fatal ∧ exit = .escape fatal)
        ∨ ∃ error, failure.route = .ok error ∧ exit = .forward (signal.substitutes error)
          ∧ events = Session.under (session.watching parent) [.hook run]
            ++ Session.under (Session.endedStanding parent)
              (.notice config.name (signal.failureNotice error) :: signal.withdrawal parent)) := by
  cases conduct with
  | refused undue => simp at h
  | passed due note there state =>
      cases note with
      | none => simp at h
      | some note =>
          obtain rfl : run = signal.run none note := by simpa using h
          exact absurd failed.symm (Option.some_ne_none failure)
  | @replaced parent due note given error fails route state =>
      obtain rfl : run = signal.run (some given) note := by simpa [List.filterMap_cons] using h
      obtain rfl : given = failure := Option.some.inj failed
      exact ⟨parent, state, due, rfl, Or.inr ⟨error, route, rfl, rfl⟩⟩
  | @escaped parent due note given fatal fails route state =>
      obtain rfl : run = signal.run (some given) note := by simpa [List.filterMap_cons] using h
      obtain rfl : given = failure := Option.some.inj failed
      exact ⟨parent, state, due, rfl, Or.inl ⟨fatal, route, rfl⟩⟩

end SignalPeek
