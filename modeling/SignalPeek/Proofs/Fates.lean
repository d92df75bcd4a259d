import Mathlib.Tactic.Common
import SignalPeek.Proofs.Escape
import SignalPeek.Proofs.Handing
import SignalPeek.Proofs.Replacement
import SignalPeek.Proofs.Reply
import SignalPeek.Proofs.Routing

/-!
# What becomes of an error

An error that is sent to a layer is not lost, and nothing becomes of it twice.  It is dropped, or
passed on, or replaced by the error that the hook failed with, or it stays where it is because the
hook failed for good (`Fate`).

**What decides.**  Whether the layer is active, and what its hook has against the error
(`Layer.objection?`).  `Layer.Befalls` says for each fate when an error meets with it and all that
comes of it.  An error meets with exactly one, after any past.

**At most one error** in the life of a layer is not dropped, since the layer has ended when it has
dealt with one.
-/

namespace SignalPeek

variable {ω ν α σ : Type}

/-- What can become of an error that is sent to a layer. -/
inductive Fate where
  /-- It came when none was expected. -/
  | dropped
  /-- It was passed on as it is. -/
  | delivered
  /-- An error that the hook failed with was passed on in its place. -/
  | replaced
  /-- The hook failed for good, and nothing was passed on. -/
  | escaped
  deriving DecidableEq, Repr

/-- The errors that a layer throws away in the course of a trace. -/
def lossesAt (layer : ℕ) (trace : List (Moment ν α)) : List Handing :=
  (handings trace).filter fun handing => handing.layer = layer ∧ handing.way.isLoss

/-- Nothing is thrown away in a turn that takes the signal. -/
lemma Conduct.lossless {hooks : Hooks ω ν α σ} {config : Config} {session session' : Session σ}
    {signal : Signal α} {events : List (Standing × Event ν α)} {exit : Exit α}
    (conduct : Conduct hooks config session signal events session' exit)
    (due : session.accepts signal = true) :
    (handingsOf events).filter (fun handing => handing.layer = 0 ∧ handing.way.isLoss) = [] := by
  cases conduct with
  | refused undue => simp [due] at undue
  | passed _ note there state => cases note <;> cases signal <;> rfl
  | @replaced parent _ note failure error fails route state =>
      have hnotice : handingsOf (Session.under (Session.endedStanding parent)
          (.notice config.name (signal.failureNotice error) :: signal.withdrawal parent
            : List (Event ν α))) = [] := by
        refine List.filterMap_eq_nil_iff.mpr (List.forall_mem_map.mpr ?_)
        refine List.forall_mem_cons.mpr ⟨by cases signal <;> rfl, fun event h => ?_⟩
        obtain ⟨channel, call, rfl⟩ := eq_called_of_mem_withdrawal h
        rfl
      rw [handingsOf_append, hnotice, List.append_nil]
      cases signal <;> rfl
  | escaped _ note fails route state => cases signal <;> rfl

namespace Layer

/-- How the hook for errors fails over an error, if it is there and fails. -/
def objection? (layer : Layer ω ν α) (session : Session layer.State) (e : StreamError) (env : ω) :
    Option HookError :=
  layer.hooks.error.bind fun hook => (hook e session.state? env).failure

/-- **When an error meets with a fate, and what comes of it**, where it is sent to a layer after a
run so far. -/
inductive Befalls (layer : Layer ω ν α) (actual : Subscriber ω ν α) (e : StreamError)
    (run : Run ω ν α (layer.onto actual).State)
    (outcome : Outcome ω ν α (layer.onto actual).State) : Fate → Prop where
  /-- Outside the active phase there is a warning, the sink has the error if there is one, and that
  is all. -/
  | dropped (undue : (layer.sessionOf actual run.state).phase ≠ .active)
      (unchanged : outcome.state = run.state) (unshared : outcome.env = run.env)
      (calm : outcome.escaped = none) {notice : Notice} (tells : notice = .errorDropped e)
      (warns : notice.level = .warn)
      (shown : outcome.trace = moments (actual.standings (Prod.snd run.state))
        (Session.under (layer.sessionOf actual run.state).standing
          (.received (.error e) :: .notice layer.config.name notice
            :: layer.config.errorSink.toList.map (.sunk · e)))) :
      Befalls layer actual e run outcome .dropped
  /-- Without an objection the error goes on as it is, with all its companions. -/
  | delivered (active : (layer.sessionOf actual run.state).phase = .active)
      (content : layer.objection? (layer.sessionOf actual run.state) e run.env = none)
      (lossless : lossesAt 0 outcome.trace = [])
      (heard : signalsAt 1 outcome.trace = [.error e]) :
      Befalls layer actual e run outcome .delivered
  /-- A recoverable objection goes on in its place and has it in the chain. -/
  | replaced (active : (layer.sessionOf actual run.state).phase = .active) {cause : Cause}
      (objects : layer.objection? (layer.sessionOf actual run.state) e run.env
        = some (.recoverable cause))
      (mild : (HookError.recoverable cause).severity = .recoverable)
      (lossless : lossesAt 0 outcome.trace = []) {x : StreamError}
      (heard : signalsAt 1 outcome.trace = [.error x]) (head : x.cause = cause.normalize.cause)
      (kept : e.cause.ident ∈ x.idents) :
      Befalls layer actual e run outcome .replaced
  /-- An objection for good is returned, and nothing goes on. -/
  | escaped (active : (layer.sessionOf actual run.state).phase = .active) {failure : HookError}
      (objects : layer.objection? (layer.sessionOf actual run.state) e run.env = some failure)
      (grave : failure.severity = .fatal) (lossless : lossesAt 0 outcome.trace = [])
      (unheard : signalsAt 1 outcome.trace = []) {fatal : Fatal} (holds : failure.Holds fatal)
      (returned : outcome.escaped = some fatal) :
      Befalls layer actual e run outcome .escaped

variable {layer : Layer ω ν α} {actual : Subscriber ω ν α} {e : StreamError}
  {run : Run ω ν α (layer.onto actual).State} {outcome : Outcome ω ν α (layer.onto actual).State}

/-- The fate of an error, as the phase and the objection decide it. -/
def fate (layer : Layer ω ν α) (session : Session layer.State) (e : StreamError) (env : ω) : Fate :=
  if session.phase = .active then
    match (layer.objection? session e env).map HookError.severity with
    | none => .delivered
    | some .recoverable => .replaced
    | some .fatal => .escaped
  else .dropped

lemma Befalls.eq_fate {fate : Fate} (befalls : layer.Befalls actual e run outcome fate) :
    fate = layer.fate (layer.sessionOf actual run.state) e run.env := by
  cases befalls with
  | dropped undue => rw [Layer.fate, if_neg undue]
  | delivered active content => rw [Layer.fate, if_pos active, content]; rfl
  | replaced active objects mild => rw [Layer.fate, if_pos active, objects, Option.map_some, mild]
  | escaped active objects grave => rw [Layer.fate, if_pos active, objects, Option.map_some, grave]

/-! ## Outside the active phase -/

lemma befalls_dropped (undue : (layer.sessionOf actual run.state).phase ≠ .active) :
    layer.Befalls actual e run ((layer.onto actual).receive (.error e) run.state run.env)
      .dropped := by
  obtain ⟨⟨session, below⟩, env, trace, results⟩ := run
  have hundue : session.accepts (.error e : Signal α) = false := by
    cases session with
    | active parent state => exact absurd rfl undue
    | _ => rfl
  have hturn : layer.turn session (.error e) env
      = Session.refuse layer.config session (.error e) env :=
    Session.turn_of_not_accepts layer.hooks layer.config hundue env
  rw [receive_onto_of_not_accepts hundue]
  refine .dropped undue rfl rfl rfl rfl rfl ?_
  simp only [ownMoments, hturn, Session.refuse, Session.refusal, Config.dropError, sink_eq]
  rfl

/-! ## In the active phase -/

/-- What an active layer does with an error is decided by the objection. -/
lemma exit_turn_error (parent : Subscription) (state : Option layer.State) (e : StreamError)
    (env : ω) :
    (layer.turn (.active parent state) (.error e) env).exit
      = match (layer.objection? (.active parent state) e env).map HookError.route with
        | none => .forward [.error e]
        | some (.ok error) => .forward [.error (error.withSuppressed e)]
        | some (.error fatal) => .escape fatal := by
  have due : (Session.active parent state).Due (.error e : Signal α) parent :=
    .ongoing parent state rfl
  have asked : layer.objection? (.active parent state) e env
      = layer.hooks.failure? (.error e) state env := by
    rw [objection?, Hooks.failure?, Hooks.reply?]
    cases layer.hooks.error <;> rfl
  rw [asked]
  cases hfailure : layer.hooks.failure? (.error e) state env with
  | none =>
      exact (Session.turn_of_calm layer.hooks layer.config due (by simp [Signal.kind]) hfailure).1
  | some failure =>
      have hexit := (Session.turn_of_failure layer.hooks layer.config due hfailure).1
      rcases hexit with ⟨fatal, route, hescape⟩ | ⟨error, route, hforward⟩
      · rw [Option.map_some, route]
        exact hescape
      · rw [Option.map_some, route]
        exact hforward

lemma lossesAt_zero_receive_onto {session : Session layer.State} {signal : Signal α}
    (due : session.accepts signal = true) (below : actual.State) (env : ω) :
    lossesAt 0 ((layer.onto actual).receive signal (session, below) env).trace = [] := by
  have hown := (layer.conduct session signal env).lossless due
  have hbelow : ∀ given : List Handing, (given.map Handing.beneath).filter
      (fun handing => handing.layer = 0 ∧ handing.way.isLoss) = [] := by
    intro given
    refine List.filter_eq_nil_iff.mpr (List.forall_mem_map.mpr fun handing _ => ?_)
    simp [Handing.beneath]
  rw [lossesAt, receive_onto, handings_append, handings_map_beneath, handings_ownMoments,
    List.filter_append, hbelow, List.append_nil]
  cases signal <;> exact hown

/-- **An error that finds the layer active** meets with the fate that the objection decides. -/
lemma exists_befalls_of_active (hactual : actual.Attentive)
    (active : (layer.sessionOf actual run.state).phase = .active) :
    ∃ fate, layer.Befalls actual e run
      ((layer.onto actual).receive (.error e) run.state run.env) fate := by
  obtain ⟨⟨session, below⟩, env, trace, results⟩ := run
  cases session with
  | active parent state =>
      have hexit := layer.exit_turn_error parent state e env
      have heard := heard_receive_onto hactual (.error e) (.active parent state) below env
      have lossless : lossesAt 0
          ((layer.onto actual).receive (.error e) (.active parent state, below) env).trace = [] :=
        lossesAt_zero_receive_onto rfl below env
      cases hobjection : layer.objection? (.active parent state) e env with
      | none =>
          rw [hobjection] at hexit
          rw [hexit] at heard
          exact ⟨_, .delivered active hobjection lossless heard.singleton⟩
      | some failure =>
          cases hroute : failure.route with
          | ok error =>
              obtain ⟨cause, rfl, rfl⟩ := HookError.recoverable_of_route hroute
              rw [hobjection, Option.map_some, hroute] at hexit
              rw [hexit] at heard
              exact ⟨_, .replaced active hobjection (HookError.severity_of_route hroute) lossless
                heard.singleton (StreamError.cause_withSuppressed _ e)
                (StreamError.head_mem_withSuppressed _ e)⟩
          | error fatal =>
              rw [hobjection, Option.map_some, hroute] at hexit
              rw [hexit] at heard
              refine ⟨_, .escaped active hobjection
                (HookError.severity_eq_fatal_iff.mpr ⟨fatal, hroute⟩) lossless heard.nil
                (HookError.holds_of_route hroute) ?_⟩
              rw [receive_onto, hexit]
              rfl
  | _ => simp [sessionOf, Session.phase] at active

/-- An active layer has ended when it has dealt with an error. -/
lemma ended_of_error (active : (layer.sessionOf actual run.state).phase = .active) :
    (layer.sessionOf actual
      ((layer.onto actual).receive (.error e) run.state run.env).state).phase = .terminated := by
  obtain ⟨state, env, trace, results⟩ := run
  have passage := layer.passage (layer.sessionOf actual state) (.error e) env
  have leads := passage.leads (.ends rfl) (active ▸ ⟨Iff.rfl, id⟩)
  rw [sessionOf_receive]
  exact leads.ended rfl

/-! ## Runs -/

lemma ended_run {state : (layer.onto actual).State}
    (ended : (layer.sessionOf actual state).phase = .terminated) (stimuli : List (Stimulus α))
    (env : ω) :
    (layer.sessionOf actual ((layer.onto actual).run stimuli state env).state).phase
      = .terminated := by
  rw [(run_of_terminated ended stimuli env).1]
  exact ended

/-- **An error meets with exactly one fate**, whatever was sent to the layer before, due or not, and
whatever its hooks and the consumer do.  Of any two errors that are sent to a layer one is dropped.
-/
theorem befalls_once (layer : Layer ω ν α) (layers : List (Layer ω ν α)) (C : Consumer α)
    (env : ω) :
    let actual := stack layers C.subscriber
    let S := layer.onto actual
    let befalls (past : List (Stimulus α)) (e : StreamError) (fate : Fate) : Prop :=
      layer.Befalls actual e (S.history past env) (S.after past (.signal (.error e)) env) fate
    (∀ past e, ∃! fate, befalls past e fate)
      ∧ ∀ past e between e', befalls past e .dropped
        ∨ befalls (past ++ .signal (.error e) :: between) e' .dropped := by
  intro actual S befalls
  refine ⟨fun past e => ?_, fun past e between e' => ?_⟩
  · obtain ⟨fate, hfate⟩ : ∃ fate, befalls past e fate := by
      by_cases active : (layer.sessionOf actual (S.history past env).state).phase = .active
      · exact exists_befalls_of_active (attentive_stack C.attentive layers) active
      · exact ⟨.dropped, befalls_dropped active⟩
    exact ⟨fate, hfate, fun other hother => hother.eq_fate.trans hfate.eq_fate.symm⟩
  · -- Either the first error is dropped, or the layer has ended after it and drops the second.
    by_cases active : (layer.sessionOf actual (S.history past env).state).phase = .active
    · have ended : (layer.sessionOf actual
          (S.history (past ++ .signal (.error e) :: between) env).state).phase = .terminated := by
        rw [S.history_append_cons]
        exact ended_run (ended_of_error active) between _
      refine Or.inr (befalls_dropped ?_)
      rw [ended]
      simp
    · exact Or.inl (befalls_dropped active)

end Layer

end SignalPeek
