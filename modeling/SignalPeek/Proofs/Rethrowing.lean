import Mathlib.Tactic.Common
import SignalPeek.Proofs.DoubleFault
import SignalPeek.Proofs.Routing
import SignalPeek.Proofs.Stillness

/-!
# Giving an error back

A hook for errors may fail with the very error that it was shown.  The failure is routed to that
error again, and an error is never its own companion, so the same is passed on as if the hook had
succeeded.

**Attaching.**  All laws of `StreamError.withSuppressed` come from the list of causes: it is
appended to or stays as it is (`StreamError.Attached`).

**From outside.**  A layer cannot be seen to have given an error back, except by its own notice and
the run of its hook.  Everything below it and every call that it makes is the same, at each moment
and under the same standings (`outside`), as with hooks that condone all errors
(`coincides_history`).
-/

namespace SignalPeek

variable {ω ν α σ τ : Type}

/-! ## Attaching -/

namespace StreamError

/-- **What attaching comes to**, for an error `a`, a newcomer `b` and the error `x` that is left. -/
structure Attached (a b x : StreamError) : Prop where
  /-- The newcomer goes behind all others, unless its head is among them. -/
  causes : x.causes = if b.cause.ident ∈ a.idents then a.causes else a.causes ++ b.causes
  idents : x.idents = if b.cause.ident ∈ a.idents then a.idents else a.idents ++ b.idents
  cause : x.cause = a.cause
  text : x.text = a.text
  /-- What was there keeps its place. -/
  kept : a.causes <+: x.causes
  /-- Attaching once more changes nothing. -/
  settled : x.withSuppressed b = x

lemma attached_withSuppressed (a b : StreamError) : Attached a b (a.withSuppressed b) := by
  have causes := causes_withSuppressed a b
  have cause := cause_withSuppressed a b
  refine ⟨causes, idents_withSuppressed a b, cause, ?text, ?kept,
    withSuppressed_of_mem (head_mem_withSuppressed a b)⟩
  case text => rw [text_eq, text_eq, cause]
  case kept =>
    rw [causes]
    split
    · exact List.prefix_refl _
    · exact List.prefix_append _ _

/-- An error is not its own companion. -/
lemma withSuppressed_self (e : StreamError) : e.withSuppressed e = e :=
  withSuppressed_of_mem e.cause_ident_mem_idents

end StreamError

/-! ## Hooks that give errors back -/

/-- If the hook for errors fails, it gives back the error that it was shown. -/
def Hooks.Rethrows (hooks : Hooks ω ν α σ) : Prop :=
  ∀ hook ∈ hooks.error, ∀ e state env failure, (hook e state env).failure = some failure →
    ∃ ident, failure = .ofStream ident e

/-- The hooks with a hook for errors that does the same and never fails. -/
def Hooks.condoning (hooks : Hooks ω ν α σ) : Hooks ω ν α σ :=
  { hooks with error := hooks.error.map fun hook e state env =>
      { hook e state env with failure := .none } }

abbrev Layer.condoning (layer : Layer ω ν α) : Layer ω ν α :=
  { layer with hooks := layer.hooks.condoning }

/-- Two turns that differ in notices and in how a hook ended only. -/
structure Turn.Coincides (turn turn' : Turn ω ν α σ) : Prop where
  session : turn.session = turn'.session
  env : turn.env = turn'.env
  exit : turn.exit = turn'.exit
  calls : turn.events.filter (·.2.isCall) = turn'.events.filter (·.2.isCall)

namespace Session

variable {hooks : Hooks ω ν α σ} (config : Config)

lemma coincides_onError (rethrows : hooks.Rethrows) (parent : Subscription) (state : Option σ)
    (e : StreamError) (env : ω) :
    (onError hooks config parent state e env : Turn ω ν α σ).Coincides
      (onError hooks.condoning config parent state e env) := by
  cases hhook : hooks.error with
  | none =>
      have same : hooks.condoning = hooks := by
        simp only [Hooks.condoning, hhook, Option.map_none]
        rw [← hhook]
      rw [same]
      exact ⟨rfl, rfl, rfl, rfl⟩
  | some hook =>
      have hcondoning : hooks.condoning.error = some fun e state env =>
          { hook e state env with failure := none } := by simp [Hooks.condoning, hhook]
      simp only [onError, hhook, hcondoning, Option.map_some, runHook]
      cases hfailure : (hook e state env).failure with
      | none => exact ⟨rfl, rfl, rfl, rfl⟩
      | some failure =>
          obtain ⟨ident, rfl⟩ := rethrows hook hhook e state env failure hfailure
          refine ⟨rfl, rfl, ?_, rfl⟩
          change Exit.forward [Signal.error (e.withSuppressed e)] = .forward [.error e]
          rw [e.withSuppressed_self]

/-- **Giving an error back** comes to the same turn as condoning it. -/
lemma coincides_turn (rethrows : hooks.Rethrows) (session : Session σ) (signal : Signal α)
    (env : ω) :
    (session.turn hooks config signal env).Coincides
      (session.turn hooks.condoning config signal env) := by
  cases session with
  | active parent state =>
      cases signal with
      | error e => exact coincides_onError config rethrows parent state e env
      | _ => exact ⟨rfl, rfl, rfl, rfl⟩
  | _ => cases signal <;> exact ⟨rfl, rfl, rfl, rfl⟩

end Session

/-! ## From outside -/

/-- What is not the layer's own affair: all that happens below the first layer, and its calls. -/
def Moment.isOutside (moment : Moment ν α) : Bool :=
  decide (0 < moment.layer) || moment.event.isCall

def outside (trace : List (Moment ν α)) : List (Moment ν α) := trace.filter Moment.isOutside

@[simp] lemma outside_append (first second : List (Moment ν α)) :
    outside (first ++ second) = outside first ++ outside second :=
  List.filter_append first second

@[simp] lemma outside_map_beneath (above : Standing) (trace : List (Moment ν α)) :
    outside (trace.map (·.beneath above)) = trace.map (·.beneath above) := by
  refine List.filter_eq_self.mpr (List.forall_mem_map.mpr fun moment _ => ?_)
  simp [Moment.isOutside, Moment.beneath]

lemma outside_moments (below : List Standing) (shown : List (Standing × Event ν α)) :
    outside (Layer.moments below shown) = Layer.moments below (shown.filter (·.2.isCall)) := by
  rw [outside, Layer.moments, List.filter_map]
  rfl

/-- The calls on a channel are made in view of everyone. -/
lemma callsTo_outside (channel : ℕ) (trace : List (Moment ν α)) :
    callsTo channel (outside trace) = callsTo channel trace := by
  rw [callsTo, outside, List.filterMap_filter]
  refine List.filterMap_congr fun moment _ => ?_
  cases hcall : moment.event.isCall with
  | true => simp [Moment.isOutside, hcall]
  | false =>
      have uncalled : moment.callTo? channel = none := by
        unfold Moment.callTo?
        split
        · rename_i hevent
          simp [hevent, Event.isCall] at hcall
        · rfl
      simp [uncalled]

lemma signalsAt_succ_outside (depth : ℕ) (trace : List (Moment ν α)) :
    signalsAt (depth + 1) (outside trace) = signalsAt (depth + 1) trace := by
  rw [signalsAt, outside, List.filterMap_filter]
  refine List.filterMap_congr fun moment _ => ?_
  by_cases h : moment.layer = 0
  · have unheard : moment.signalAt? (depth + 1) = none := Moment.signalAt?_of_ne (by omega)
    simp [unheard]
  · simp [Moment.isOutside, Nat.pos_of_ne_zero h]

/-- Two outcomes that look the same from outside. -/
structure Outcome.Coincides (outcome outcome' : Outcome ω ν α τ) : Prop where
  state : outcome.state = outcome'.state
  env : outcome.env = outcome'.env
  outside : outside outcome.trace = outside outcome'.trace
  escaped : outcome.escaped = outcome'.escaped

/-- Two runs that look the same from outside. -/
structure Run.Coincides (run run' : Run ω ν α τ) : Prop where
  state : run.state = run'.state
  env : run.env = run'.env
  outside : outside run.trace = outside run'.trace
  results : run.results = run'.results

lemma Run.Coincides.extend {run run' : Run ω ν α τ} (runs : run.Coincides run')
    {outcome outcome' : Outcome ω ν α τ} (outcomes : outcome.Coincides outcome') :
    (run.extend outcome).Coincides (run'.extend outcome') := by
  refine ⟨outcomes.state, outcomes.env, ?_, ?_⟩
  · simp only [Run.extend, outside_append, runs.outside, outcomes.outside]
  · simp only [Run.extend, runs.results, outcomes.escaped]

namespace Layer

variable {layer : Layer ω ν α}

lemma coincides_receive (rethrows : layer.hooks.Rethrows) (actual : Subscriber ω ν α)
    (signal : Signal α) (session : Session layer.State) (below : actual.State) (env : ω) :
    ((layer.onto actual).receive signal (session, below) env).Coincides
      ((layer.condoning.onto actual).receive signal (session, below) env) := by
  have turns : (layer.turn session signal env).Coincides
      (layer.condoning.turn session signal env) :=
    Session.coincides_turn layer.config rethrows session signal env
  have passed : layer.passedOn actual signal session below env
      = layer.condoning.passedOn actual signal session below env := by
    change actual.receiveAll _ below _ = actual.receiveAll _ below _
    rw [turns.exit, turns.env]
  have own : outside (layer.ownMoments actual signal session below env)
      = outside (layer.condoning.ownMoments actual signal session below env) := by
    have hcalls := congrArg (moments (actual.standings below)) turns.calls
    rw [← outside_moments, ← outside_moments] at hcalls
    exact hcalls
  rw [layer.receive_onto, layer.condoning.receive_onto]
  refine ⟨?_, ?_, ?_, ?_⟩
  · exact congrArg₂ Prod.mk turns.session (congrArg Outcome.state passed)
  · rw [passed]
  · simp only [outside_append, outside_map_beneath, own, passed, turns.session]
  · simp only [turns.exit, passed]

/-- **An error that is given back goes unnoticed** in any run of the layer, over any subscriber. -/
theorem coincides_history (rethrows : layer.hooks.Rethrows) (actual : Subscriber ω ν α)
    (stimuli : List (Stimulus α)) (env : ω) :
    ((layer.onto actual).history stimuli env).Coincides
      ((layer.condoning.onto actual).history stimuli env) := by
  induction stimuli using List.reverseRecOn with
  | nil => exact ⟨rfl, rfl, rfl, rfl⟩
  | append_singleton past stimulus ih =>
      rw [Subscriber.history_concat, Subscriber.history_concat]
      refine ih.extend ?_
      cases stimulus with
      | signal signal =>
          change Outcome.Coincides _ ((layer.condoning.onto actual).receive signal _ _)
          rw [← ih.state, ← ih.env]
          exact coincides_receive rethrows actual signal _ _ _
      | call call =>
          -- A call shows the standings and the handle, and both are read off the state.
          have shown := congrArg
            (fun state => outside (((layer.onto actual).call? call state).getD [])) ih.state
          exact ⟨ih.state, ih.env, shown, rfl⟩

/-- **Attaching is appending, and giving an error back goes unnoticed.**  An error goes behind
another with all its causes, or not at all if its head is there already; the other keeps what it
has, and doing it again changes nothing.  An error that a hook gives back is routed to itself and is
not its own companion.  So a layer whose hook for errors gives back what it is shown passes the same
on, in every run and over every subscriber, as one whose hook succeeds. -/
theorem attached_and_given_back :
    (∀ a b : StreamError, StreamError.Attached a b (a.withSuppressed b))
    ∧ (∀ (ident : Ident) (e : StreamError),
        (HookError.ofStream ident e).route = .ok e ∧ e.withSuppressed e = e)
    ∧ ∀ layer : Layer ω ν α, layer.hooks.Rethrows →
        ∀ (actual : Subscriber ω ν α) (stimuli : List (Stimulus α)) (env : ω),
          let run := (layer.onto actual).history stimuli env
          let run' := (layer.condoning.onto actual).history stimuli env
          run.Coincides run'
            ∧ (∀ depth, signalsAt (depth + 1) run.trace = signalsAt (depth + 1) run'.trace)
            ∧ ∀ channel, callsTo channel run.trace = callsTo channel run'.trace := by
  refine ⟨StreamError.attached_withSuppressed, fun ident e => ⟨rfl, e.withSuppressed_self⟩, ?_⟩
  intro layer rethrows actual stimuli env run run'
  have same : run.Coincides run' := coincides_history rethrows actual stimuli env
  refine ⟨same, fun depth => ?_, fun channel => ?_⟩
  · rw [← signalsAt_succ_outside, same.outside, signalsAt_succ_outside]
  · rw [← callsTo_outside, same.outside, callsTo_outside]

/-- A layer gives back an error of two causes.  The consumer is told of that error, just as if the
hook had succeeded, although the two hooks ended differently. -/
theorem given_back_by_grumbling :
    let e : StreamError := .paired (.mk 0 (.message "stop")) (.lone (.mk 1 (.message "late")))
    let layer : Layer Unit Unit ℕ := grumbling () (.ofStream 2)
    let actual : Subscriber Unit Unit ℕ := (Consumer.asking 0).subscriber
    let stimuli : List (Stimulus ℕ) := [.signal (.subscribe (.direct 0)), .signal (.error e)]
    let run := (layer.onto actual).history stimuli ()
    let run' := (layer.condoning.onto actual).history stimuli ()
    layer.hooks.Rethrows
      ∧ (hookRunsAt 0 run.trace).map (·.failure) = [some (.ofStream 2 e)]
      ∧ (hookRunsAt 0 run'.trace).map (·.failure) = [none]
      ∧ run.Coincides run'
      ∧ signalsAt 1 run'.trace = [.subscribe (.relay (.direct 0)), .error e]
      ∧ signalsAt 1 run.trace = signalsAt 1 run'.trace := by
  intro e layer actual stimuli run run'
  have rethrows : layer.hooks.Rethrows := by
    rintro hook ⟨⟩ given state env failure ⟨⟩
    exact ⟨2, rfl⟩
  obtain ⟨-, -, hlayers⟩ := attached_and_given_back (ω := Unit) (ν := Unit) (α := ℕ)
  obtain ⟨same, heard, -⟩ := hlayers layer rethrows actual stimuli ()
  exact ⟨rethrows, rfl, rfl, same, rfl, heard 0⟩

end Layer

end SignalPeek
