import Mathlib.Tactic.Common
import SignalPeek.Proofs.HookOrder
import SignalPeek.Proofs.Legality
import SignalPeek.Proofs.Reply
import SignalPeek.Proofs.Routing

/-!
# Recoverable failures

When a hook fails recoverably, the subscriber below is told so in the same call, and this is the
last that it hears from the layer.

**Delivery.**  One error is sent, and nothing else but an inert subscription in front of it where a
seed failed.  The error is missing only if a fatal error comes back over that subscription
(`Delivery`).

**The call as a whole.**  `Layer.Rerouted` has all that comes of the call: what the layer does
itself, in order and before it sends anything, and after that what comes of the delivery.  Only a
failure over an item cancels the parent.  What the hook did to the state before it failed stays.
-/

namespace SignalPeek

variable {ω ν α σ : Type}

/-! ## Delivery -/

/-- **How an error is delivered** to a subscriber, when a hook failed over a signal of this kind:
the signals that the subscriber hears, and what comes of them. -/
inductive Delivery (actual : Subscriber ω ν α) (x : StreamError) (below : actual.State) (env : ω) :
    SignalKind → List (Signal α) → Outcome ω ν α actual.State → Prop where
  | direct {kind : SignalKind} (ongoing : kind ≠ .subscribe) :
      Delivery actual x below env kind [.error x] (actual.receive (.error x) below env)
  /-- Where a seed failed nothing has been heard yet, and an inert subscription goes before. -/
  | preceded {opened : Outcome ω ν α actual.State}
      (opens : actual.receive (.subscribe .inert) below env = opened)
      (calm : opened.escaped = none) :
      Delivery actual x below env .subscribe [.subscribe .inert, .error x]
        ((actual.receive (.error x) opened.state opened.env).precededBy opened.trace)
  /-- A fatal error comes back over the inert subscription, and the other error is not sent. -/
  | forestalled {opened : Outcome ω ν α actual.State}
      (opens : actual.receive (.subscribe .inert) below env = opened) {fatal : Fatal}
      (escaped : opened.escaped = some fatal) :
      Delivery actual x below env .subscribe [.subscribe .inert] opened

lemma Delivery.signalsAt_zero {actual : Subscriber ω ν α} (hactual : actual.Attentive)
    {x : StreamError} {below : actual.State} {env : ω} {kind : SignalKind}
    {heard : List (Signal α)} {told : Outcome ω ν α actual.State}
    (delivery : Delivery actual x below env kind heard told) : signalsAt 0 told.trace = heard := by
  cases delivery with
  | direct ongoing => exact hactual _ _ _
  | preceded opens calm =>
      rw [← opens]
      simp only [Outcome.precededBy, signalsAt_append]
      rw [hactual, hactual]
      rfl
  | forestalled opens escaped =>
      rw [← opens]
      exact hactual _ _ _

/-- Nothing is completed by a delivery. -/
lemma Delivery.kind_ne_complete {actual : Subscriber ω ν α} {x : StreamError} {below : actual.State}
    {env : ω} {kind : SignalKind} {heard : List (Signal α)} {told : Outcome ω ν α actual.State}
    (delivery : Delivery actual x below env kind heard told) :
    ∀ s ∈ heard, s.kind ≠ .complete := by
  cases delivery <;> simp [Signal.kind]

/-- What takes the place of a signal is a delivery, of an error with the same head. -/
lemma Signal.exists_delivery (signal : Signal α) (error : StreamError) (actual : Subscriber ω ν α)
    (below : actual.State) (env : ω) :
    ∃ x heard, x.cause = error.cause ∧ Delivery actual x below env signal.kind heard
      (actual.receiveAll (signal.substitutes error) below env) := by
  cases signal with
  | subscribe parent =>
      have both : actual.receiveAll (Signal.substitutes (.subscribe parent) error) below env
          = (actual.receive (.subscribe .inert) below env).andThen
              (actual.receive (.error error)) := by
        rw [substitutes, Subscriber.receiveAll]
        congr 1
        funext state env
        exact Subscriber.receiveAll_singleton (.error error) state env
      rw [both]
      cases hescaped : (actual.receive (.subscribe .inert) below env).escaped with
      | some fatal =>
          rw [Outcome.andThen_of_escaped hescaped]
          exact ⟨error, _, rfl, .forestalled rfl hescaped⟩
      | none =>
          rw [Outcome.andThen_of_not_escaped hescaped]
          exact ⟨error, _, rfl, .preceded rfl hescaped⟩
  | error given =>
      rw [substitutes, Subscriber.receiveAll_singleton]
      exact ⟨error.withSuppressed given, _, StreamError.cause_withSuppressed error given,
        .direct (by simp [kind])⟩
  | _ =>
      rw [substitutes, Subscriber.receiveAll_singleton]
      exact ⟨error, _, rfl, .direct (by simp [kind])⟩

/-! ## The turn -/

namespace Session

/-- **A turn in which a hook fails recoverably**, with all that it shows and leaves. -/
lemma turn_of_recoverable (hooks : Hooks ω ν α σ) (config : Config) {session : Session σ}
    {signal : Signal α} {env : ω} {run : HookRun ν α}
    (h : run ∈ (session.turn hooks config signal env).events.filterMap (·.2.hookRun?))
    {failure : HookError} (failed : run.failure = some failure)
    (mild : failure.severity = .recoverable) :
    ∃ parent, session.Due signal parent
      ∧ hooks.failure? signal session.state? env = some failure
      ∧ session.turn hooks config signal env =
        { session := .terminated parent (hooks.stateAfter signal session.state? env)
          env := hooks.envAfter signal session.state? env
          events := under (session.watching parent) [.hook run] ++ under (endedStanding parent)
            (.notice config.name (signal.failureNotice failure.cause.normalize)
              :: signal.withdrawal parent)
          exit := .forward (signal.substitutes failure.cause.normalize) } := by
  obtain ⟨parent, state, due, -, hexit⟩ :=
    (conduct_turn hooks config session signal env).of_failure h failed
  have heeds := heeds_turn hooks config due.accepts env
  have fails : hooks.failure? signal session.state? env = some failure :=
    (heeds.failure_eq run h).symm.trans failed
  rw [HookError.route_of_recoverable mild] at hexit
  rcases hexit with ⟨fatal, ⟨⟩, -⟩ | ⟨error, ⟨⟩, hforward, hevents⟩
  refine ⟨parent, due, fails, ?_⟩
  rw [← (turn_of_failure hooks config due fails).2, ← heeds.shared, ← hevents, ← hforward]

end Session

/-! ## The call -/

/-- While a signal is due no completion was heard. -/
lemma Session.Due.kind_ne_complete {session : Session σ} {signal : Signal α} {parent : Subscription}
    (due : session.Due signal parent) {heard : List (Signal α)} (fits : session.Fits heard) :
    ∀ s ∈ heard, s.kind ≠ .complete := by
  cases due with
  | opening parent =>
      obtain rfl : heard = [] := fits
      exact List.forall_mem_nil _
  | ongoing parent state accepted =>
      obtain ⟨subscription, items, rfl⟩ := fits
      simp [Signal.kind]

namespace Layer

/-- **What comes of a call** in which a hook of the layer fails recoverably, where the layer is sent
a signal after a run so far: `parent` is the subscription that it has, `x` the error that it sends,
`heard` what the subscriber below hears of that, and `told` what comes of it. -/
structure Rerouted (layer : Layer ω ν α) (actual : Subscriber ω ν α) (signal : Signal α)
    (before : Run ω ν α (layer.onto actual).State) (run : HookRun ν α) (failure : HookError)
    (parent : Subscription) (x : StreamError) (heard : List (Signal α))
    (told : Outcome ω ν α actual.State)
    (outcome : Outcome ω ν α (layer.onto actual).State) : Prop where
  /-- The failure is that of the hook for the signal, in the state that the layer was in. -/
  fails : layer.hooks.failure? signal (layer.sessionOf actual before.state).state? before.env
    = some failure
  root : x.root = failure.cause.root
  delivery : Delivery actual x (Prod.snd before.state)
    (layer.hooks.envAfter signal (layer.sessionOf actual before.state).state? before.env)
    signal.kind heard told
  heard : signalsAt 1 outcome.trace = heard
  /-- The layer has ended, with all that the hook did to the state. -/
  state : outcome.state = (.terminated parent
    (layer.hooks.stateAfter signal (layer.sessionOf actual before.state).state? before.env),
    told.state)
  env : outcome.env = told.env
  returned : outcome.escaped = told.escaped
  /-- The hook runs, notice is given, the parent is cancelled if the signal was an item, and then
  the subscriber below is told. -/
  trace : outcome.trace = moments (actual.standings (Prod.snd before.state))
      (((layer.sessionOf actual before.state).standing, .received signal)
        :: (Session.under ((layer.sessionOf actual before.state).watching parent) [.hook run]
          ++ Session.under (Session.endedStanding parent)
            (.notice layer.config.name (signal.failureNotice failure.cause.normalize)
              :: signal.withdrawal parent)))
    ++ told.trace.map (·.beneath (Session.endedStanding parent))

variable {layer : Layer ω ν α} {actual : Subscriber ω ν α}

lemma rerouted_receive (hactual : actual.Attentive) {signal : Signal α}
    {before : Run ω ν α (layer.onto actual).State} {run : HookRun ν α}
    (h : run ∈ hookRunsAt 0 ((layer.onto actual).receive signal before.state before.env).trace)
    {failure : HookError} (failed : run.failure = some failure)
    (mild : failure.severity = .recoverable) :
    ∃ parent x heard told, (layer.sessionOf actual before.state).Due signal parent
      ∧ layer.Rerouted actual signal before run failure parent x heard told
        ((layer.onto actual).receive signal before.state before.env) := by
  obtain ⟨⟨session, below⟩, env, trace, results⟩ := before
  rw [layer.hookRunsAt_zero_receive_onto actual signal session below env] at h
  obtain ⟨parent, due, fails, hturn⟩ :=
    Session.turn_of_recoverable layer.hooks layer.config h failed mild
  have hturn' : layer.turn session signal env = _ := hturn
  obtain ⟨x, heard, hcause, delivery⟩ := signal.exists_delivery failure.cause.normalize actual below
    (layer.hooks.envAfter signal session.state? env)
  have hroot : x.root = failure.cause.root := by
    rw [x.root_eq, hcause, ← StreamError.root_eq, Cause.root_normalize]
  have hpassed : layer.passedOn actual signal session below env
      = actual.receiveAll (signal.substitutes failure.cause.normalize) below
          (layer.hooks.envAfter signal session.state? env) := by
    rw [passedOn, hturn']
    rfl
  have hheard : signalsAt 1 ((layer.onto actual).receive signal (session, below) env).trace
      = heard := by
    rw [signalsAt_succ_receive_onto, hpassed]
    exact delivery.signalsAt_zero hactual
  refine ⟨parent, x, heard, _, due, fails, hroot, delivery, hheard,
    ?state, ?shared, ?returned, ?trace⟩
  case state =>
    rw [receive_onto, hpassed, hturn']
    rfl
  case shared => rw [receive_onto, hpassed]
  case returned =>
    rw [receive_onto, hpassed, hturn']
    rfl
  case trace =>
    rw [receive_onto, hpassed, ownMoments, hturn']
    rfl

/-- **Recoverable failures are rerouted in the call that they happen in**, after any past and in any
call in which a hook of the layer fails recoverably.  What the subscriber below hears in this call
is the last that it ever hears, and no completion was or will be among it. -/
theorem rerouted_in_call (layer : Layer ω ν α) (layers : List (Layer ω ν α)) (C : Consumer α)
    (past : List (Stimulus α)) (stimulus : Stimulus α) (env : ω) :
    let actual := stack layers C.subscriber
    let S := layer.onto actual
    let before := S.history past env
    let outcome := S.after past stimulus env
    ∀ run ∈ hookRunsAt 0 outcome.trace, ∀ failure, run.failure = some failure →
      failure.severity = .recoverable →
        ∃ signal parent x heard told, stimulus = .signal signal ∧ run.occasion = signal.occasion
          ∧ (subscriptions (past ++ [stimulus])).head? = some parent
          ∧ layer.Rerouted actual signal before run failure parent x heard told outcome
          ∧ ∀ later, signalsAt 1 (S.history (past ++ stimulus :: later) env).trace
                = signalsAt 1 before.trace ++ heard
              ∧ ∀ s ∈ signalsAt 1 before.trace ++ heard, s.kind ≠ .complete := by
  intro actual S before outcome run h failure failed mild
  have hactual : actual.Attentive := attentive_stack C.attentive layers
  obtain ⟨signal, rfl, hoccasion⟩ := (layer.inPlace_of_mem actual h).answers
  obtain ⟨parent, x, heard, told, due, rerouted⟩ : ∃ parent x heard told,
      (layer.sessionOf actual before.state).Due signal parent
        ∧ layer.Rerouted actual signal before run failure parent x heard told outcome :=
    rerouted_receive hactual h failed mild
  have ended : layer.sessionOf actual outcome.state = .terminated parent
      (layer.hooks.stateAfter signal (layer.sessionOf actual before.state).state? before.env) := by
    rw [rerouted.state]
    rfl
  refine ⟨signal, parent, x, heard, told, rfl, hoccasion, ?parent, rerouted,
    fun later => ⟨?last, ?incomplete⟩⟩
  case parent =>
    have hparent := layer.parent?_history actual (past ++ [.signal signal]) env
    rw [Subscriber.history_concat] at hparent
    exact hparent.symm.trans (congrArg Session.parent? ended)
  case last =>
    have silent : layer.Silent actual outcome.state :=
      silent_of_terminated (congrArg Session.phase ended)
    rw [Subscriber.trace_history_append_cons, signalsAt_append, signalsAt_append, rerouted.heard,
      (silent later outcome.env).2, List.append_nil]
  case incomplete =>
    have fits := (fits_history layer hactual past env).1
    exact List.forall_mem_append.mpr
      ⟨due.kind_ne_complete fits, rerouted.delivery.kind_ne_complete⟩

/-- A layer that counts items, and gives back a stream error over a zero. -/
def scanning (note : ν) (fault : StreamError) : Layer ω ν ℕ where
  State := ℕ
  hooks :=
    { seed := some fun env => { result := .ok 0, note, env }
      next := some fun item _ env =>
        let failure := match item with
          | 0 => some (.ofStream 0 fault)
          | _ + 1 => none
        { effect := (· + 1), failure, note, env }
      error := none
      complete := none }
  config := .standard

/-- The first item is a zero.  It is counted all the same, the source is cancelled, and then the
subscriber below is told the error that the hook gave back. -/
theorem rerouted_by_scanning :
    let fault : StreamError := .paired (.mk 1 (.message "full")) (.lone (.mk 2 (.message "late")))
    let layer : Layer Unit Unit ℕ := scanning () fault
    let actual : Subscriber Unit Unit ℕ := stack [plain] (Consumer.asking 0).subscriber
    let past : List (Stimulus ℕ) := [.signal (.subscribe (.direct 0))]
    let stimulus : Stimulus ℕ := .signal (.next 0)
    let before := (layer.onto actual).history past ()
    let outcome := (layer.onto actual).after past stimulus ()
    let failure : HookError := .ofStream 0 fault
    let run : HookRun Unit ℕ := { occasion := .next 0, failure := some failure, note := () }
    run ∈ hookRunsAt 0 outcome.trace ∧ run.failure = some failure
      ∧ failure.severity = .recoverable
      ∧ (layer.sessionOf actual outcome.state).state? = some (1 : ℕ)
      ∧ callsTo 0 outcome.trace = [.cancel]
      ∧ signalsAt 1 outcome.trace = [.error fault]
      ∧ ∃ signal parent x heard told, stimulus = .signal signal ∧ run.occasion = signal.occasion
          ∧ (subscriptions (past ++ [stimulus])).head? = some parent
          ∧ layer.Rerouted actual signal before run failure parent x heard told outcome
          ∧ ∀ later, signalsAt 1 ((layer.onto actual).history (past ++ stimulus :: later) ()).trace
                = signalsAt 1 before.trace ++ heard
              ∧ ∀ s ∈ signalsAt 1 before.trace ++ heard, s.kind ≠ .complete := by
  intro fault layer actual past stimulus before outcome failure run
  have hmem : run ∈ hookRunsAt 0 outcome.trace := List.mem_singleton_self run
  exact ⟨hmem, rfl, rfl, rfl, rfl, rfl,
    rerouted_in_call layer [plain] (Consumer.asking 0) past stimulus () run hmem failure rfl rfl⟩

end Layer

end SignalPeek
