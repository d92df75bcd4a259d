import Mathlib.Tactic.Common
import SignalPeek.Proofs.Reception
import SignalPeek.Proofs.Run

/-!
# Escapes

What a fatal error leaves behind in the layer that let it escape.

**After an end.**  Signals that are not due come to nothing (`undue_run`), and to an ended layer
none is due: it runs no hook and passes nothing on, whatever is sent to it (`silent_of_terminated`).

**After an escape.**  A layer ends itself before it lets the error of a hook of its own escape, and
also before it passes a terminal signal on.  It does not end itself when the subscriber below fails
over an item or over the subscription that it is to live with: the layer returns the error and goes
on as if nothing had happened.  So an escape ends the layer exactly when all that was passed on in
the call were terminal signals or the inert subscription of a failed seed
(`terminated_iff_of_escaped`).
-/

namespace SignalPeek

variable {ω ν α σ : Type}

/-- The signals that a layer passes on only once it has ended. -/
def Signal.isParting : Signal α → Bool
  | .subscribe .inert => true
  | .subscribe _ | .next _ => false
  | .error _ | .complete => true

lemma Signal.isParting_iff {signal : Signal α} :
    signal.isParting = true ↔ signal.isTerminal = true ∨ signal = .subscribe .inert := by
  cases signal with
  | subscribe subscription => cases subscription <;> simp [isParting, isTerminal]
  | _ => simp [isParting, isTerminal]

/-- A passage that does something ends the session exactly when what is heard of it are parting
signals. -/
lemma Passage.terminated_iff {session session' : Session σ} {signal : Signal α} {exit : Exit α}
    (passage : Passage session signal session' exit) (moved : exit ≠ .forward [])
    {heard : List (Signal α)} (hheard : Subscriber.Heard exit.signals heard) :
    session'.phase = .terminated ↔ ∀ s ∈ heard, s.isParting = true := by
  cases passage with
  | refused undue => exact absurd rfl moved
  | escaped due parent state fatal =>
      rw [hheard.nil]
      simp [Session.phase]
  | seeded parent state =>
      rw [hheard.singleton]
      simp [Session.phase, Signal.isParting]
  | unseeded parent error =>
      rcases hheard.pair with rfl | rfl
      · simp [Session.phase, Signal.isParting]
      · simp [Session.phase, Signal.isParting]
  | item parent state state' item =>
      rw [hheard.singleton]
      simp [Session.phase, Signal.isParting]
  | ended parent state state' due terminal =>
      rw [hheard.singleton]
      simp [Session.phase, Signal.isParting_iff, terminal]

namespace Layer

variable {layer : Layer ω ν α} {actual : Subscriber ω ν α}

/-- A signal that is not due, like any call, leaves a layer and the subscriber below as they are. -/
lemma undue_respond {state : (layer.onto actual).State} {stimulus : Stimulus α}
    (undue : ∀ signal, stimulus = .signal signal →
      (layer.sessionOf actual state).accepts signal = false) (env : ω) :
    let outcome := (layer.onto actual).respond stimulus state env
    outcome.state = state ∧ outcome.env = env ∧ outcome.escaped = none
      ∧ hookRunsAt 0 outcome.trace = [] ∧ ∀ depth, signalsAt (depth + 1) outcome.trace = [] := by
  obtain ⟨session, below⟩ := state
  cases stimulus with
  | signal signal =>
      have hundue : session.accepts signal = false := undue signal rfl
      intro outcome
      rw [show outcome = _ from receive_onto_of_not_accepts hundue below env]
      exact ⟨rfl, rfl, rfl, hookRunsAt_zero_ownMoments_of_not_accepts hundue below env,
        fun depth => signalsAt_succ_ownMoments depth signal session below env⟩
  | call call =>
      exact ⟨rfl, rfl, rfl, Subscriber.hookRunsAt_respond_call _ 0 call _ env,
        fun depth => Subscriber.signalsAt_respond_call _ (depth + 1) call _ env⟩

/-- **Signals that are not due come to nothing**, however many there are. -/
lemma undue_run {state : (layer.onto actual).State} {stimuli : List (Stimulus α)}
    (undue : ∀ signal, .signal signal ∈ stimuli →
      (layer.sessionOf actual state).accepts signal = false) (env : ω) :
    let run := (layer.onto actual).run stimuli state env
    run.state = state ∧ run.env = env ∧ hookRunsAt 0 run.trace = []
      ∧ ∀ depth, signalsAt (depth + 1) run.trace = [] := by
  induction stimuli using List.reverseRecOn with
  | nil => exact ⟨rfl, rfl, rfl, fun _ => rfl⟩
  | append_singleton past stimulus ih =>
      obtain ⟨hstate, henv, hhooks, hsignals⟩ :=
        ih fun signal h => undue signal (List.mem_append_left _ h)
      have hlast : ∀ signal, stimulus = .signal signal →
          (layer.sessionOf actual state).accepts signal = false := by
        rintro signal rfl
        exact undue signal (List.mem_append_right _ (List.mem_singleton_self _))
      obtain ⟨hstate', henv', -, hhooks', hsignals'⟩ := undue_respond hlast env
      rw [Subscriber.run_concat, hstate, henv]
      refine ⟨hstate', henv', ?_, fun depth => ?_⟩
      · simp only [Run.extend, hookRunsAt_append, hhooks, hhooks', List.nil_append]
      · simp only [Run.extend, signalsAt_append, hsignals, hsignals', List.nil_append]

lemma not_accepts_of_terminated {session : Session σ} (ended : session.phase = .terminated)
    (signal : Signal α) : session.accepts signal = false := by
  cases session with
  | terminated parent state => cases signal <;> rfl
  | _ => simp [Session.phase] at ended

/-- Nothing that is done to an ended layer changes it, or goes through it. -/
lemma run_of_terminated {state : (layer.onto actual).State}
    (ended : (layer.sessionOf actual state).phase = .terminated) (stimuli : List (Stimulus α))
    (env : ω) :
    let run := (layer.onto actual).run stimuli state env
    run.state = state ∧ run.env = env ∧ hookRunsAt 0 run.trace = []
      ∧ ∀ depth, signalsAt (depth + 1) run.trace = [] :=
  undue_run (fun signal _ => not_accepts_of_terminated ended signal) env

/-- A layer that has no more to do with its stream: no hook of it runs and nothing goes through it,
whatever is done to it from now on, and whatever becomes of what its hooks share. -/
def Silent (layer : Layer ω ν α) (actual : Subscriber ω ν α)
    (state : (layer.onto actual).State) : Prop :=
  ∀ stimuli env, hookRunsAt 0 ((layer.onto actual).run stimuli state env).trace = []
    ∧ signalsAt 1 ((layer.onto actual).run stimuli state env).trace = []

/-- **An ended layer is silent** ever after. -/
theorem silent_of_terminated {state : (layer.onto actual).State}
    (ended : (layer.sessionOf actual state).phase = .terminated) : layer.Silent actual state := by
  intro stimuli env
  obtain ⟨-, -, hhooks, hsignals⟩ := run_of_terminated ended stimuli env
  exact ⟨hhooks, hsignals 0⟩

lemma exit_ne_of_escaped {signal : Signal α} {session : Session layer.State} {below : actual.State}
    {env : ω} {fatal : Fatal}
    (escaped : ((layer.onto actual).receive signal (session, below) env).escaped = some fatal) :
    (layer.turn session signal env).exit ≠ .forward [] := by
  intro hexit
  simp [receive_onto, passedOn, hexit, Exit.fatal?, Exit.signals, Subscriber.receiveAll,
    Outcome.idle] at escaped

lemma phase_iff_of_escaped (hactual : actual.Attentive) {signal : Signal α}
    {session : Session layer.State} {below : actual.State} {env : ω} {fatal : Fatal}
    (escaped : ((layer.onto actual).receive signal (session, below) env).escaped = some fatal) :
    (layer.sessionOf actual ((layer.onto actual).receive signal (session, below) env).state).phase
        = .terminated
      ↔ ∀ s ∈ signalsAt 1 ((layer.onto actual).receive signal (session, below) env).trace,
          s.isParting = true := by
  have passage := layer.passage session signal env
  have hheard := heard_receive_onto hactual signal session below env
  have hended := passage.terminated_iff (exit_ne_of_escaped escaped) hheard
  rw [← hended, receive_onto]
  rfl

/-- **When an escape ends the layer.**  A fatal error that escapes from a call leaves the layer
ended, and silent from then on, exactly when nothing but terminal signals and inert subscriptions
was passed on in that call: above all when a hook of the layer itself failed, for then nothing was.
-/
theorem terminated_iff_of_escaped (layer : Layer ω ν α) (layers : List (Layer ω ν α))
    (C : Consumer α) (signal : Signal α)
    (state : (layer.onto (stack layers C.subscriber)).State) (env : ω) {fatal : Fatal} :
    let actual := stack layers C.subscriber
    let outcome := (layer.onto actual).receive signal state env
    outcome.escaped = some fatal →
      ((layer.sessionOf actual outcome.state).phase = .terminated
          ∧ layer.Silent actual outcome.state
        ↔ ∀ s ∈ signalsAt 1 outcome.trace, s.isTerminal = true ∨ s = .subscribe .inert) := by
  intro actual outcome escaped
  have hphase := phase_iff_of_escaped (attentive_stack C.attentive layers) escaped
  calc (layer.sessionOf actual outcome.state).phase = .terminated
          ∧ layer.Silent actual outcome.state
      ↔ (layer.sessionOf actual outcome.state).phase = .terminated :=
        and_iff_left_of_imp silent_of_terminated
    _ ↔ ∀ s ∈ signalsAt 1 outcome.trace, s.isParting = true := hphase
    _ ↔ ∀ s ∈ signalsAt 1 outcome.trace, s.isTerminal = true ∨ s = .subscribe .inert :=
        forall₂_congr fun s _ => Signal.isParting_iff

/-- A layer that fails for good about every completion. -/
def sealed (note : ν) (fatal : Fatal) : Layer ω ν α where
  State := Unit
  hooks := { Hooks.none with
    complete := some fun _ env => { effect := id, failure := some (.fatal fatal), note, env } }
  config := .standard

/-- The equivalence where a hook two layers down fails for good about the completion that both
layers above it have passed on. -/
theorem terminated_iff_above_sealed :
    let fatal : Fatal := .mk (.mk 0 (.message "stop"))
    let actual : Subscriber Unit Unit Unit :=
      stack [plain, sealed () fatal] (Consumer.asking 0).subscriber
    let state : (plain.onto actual).State :=
      (.active (.direct 0) none, .active (.relay (.direct 0)) none,
        .active (.relay (.relay (.direct 0))) none, none, ())
    let outcome := (plain.onto actual).receive .complete state ()
    outcome.escaped = some fatal
      ∧ ((plain.sessionOf actual outcome.state).phase = .terminated
          ∧ plain.Silent actual outcome.state
        ↔ ∀ s ∈ signalsAt 1 outcome.trace, s.isTerminal = true ∨ s = .subscribe .inert) :=
  ⟨rfl, terminated_iff_of_escaped plain [plain, sealed () (.mk (.mk 0 (.message "stop")))]
    (Consumer.asking 0) .complete _ () rfl⟩

end Layer

/-- The consumer that fails over every item. -/
def Consumer.balking (fatal : Fatal) : Consumer α where
  State := Unit
  init := ()
  react signal _ :=
    { state := ()
      calls := []
      fatal := match signal with
        | .next _ => some fatal
        | _ => none }

/-- **An escape that does not end the layer.**  The consumer fails over an item, the layer returns
the error, stays active, and passes the next item on. -/
theorem active_after_item_escape :
    let fatal : Fatal := .mk (.mk 0 (.message "stop"))
    let actual : Subscriber Unit Unit ℕ := (Consumer.balking fatal).subscriber
    let run := (Layer.plain.onto actual).history
      [.signal (.subscribe (.direct 0)), .signal (.next 1), .signal (.next 2)] ()
    run.results = [none, some fatal, some fatal]
      ∧ (Layer.plain.sessionOf actual run.state).phase = .active
      ∧ signalsAt 1 run.trace = [.subscribe (.relay (.direct 0)), .next 1, .next 2] :=
  ⟨rfl, rfl, rfl⟩

end SignalPeek
