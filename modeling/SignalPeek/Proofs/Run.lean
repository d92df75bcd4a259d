import Mathlib.Data.List.Induction
import Mathlib.Tactic.Common
import SignalPeek.Proofs.Observation
import SignalPeek.Subscriber

/-!
# Runs

`Subscriber.receiveAll` is how a layer sends signals: it stops at the first fatal error that
escapes.  Someone who sends signals from outside need not stop.  A `Run` is what comes of any finite
sequence of stimuli, in any order, legal or not, and whatever escaped on the way.

**Stimuli.**  A stimulus is a signal to the subscriber, or a call that the consumer at the end makes
on its handle between two signals.  Calls within a signal are part of the consumer's reaction.

**Induction.**  What holds at the start and is kept by every single stimulus holds after every run
(`Subscriber.run_induction`).  All properties of runs are proved through it.
-/

namespace SignalPeek

variable {ω ν α τ : Type}

/-- What is done to a subscriber from outside. -/
inductive Stimulus (α : Type) where
  /-- A signal is sent, whether it is due or not. -/
  | signal (signal : Signal α)
  /-- The consumer makes a call on its handle. -/
  | call (call : Call)

def Signal.item? : Signal α → Option α
  | .next item => some item
  | _ => none

def Stimulus.item? : Stimulus α → Option α
  | .signal s => s.item?
  | .call _ => none

/-- A run so far. -/
structure Run (ω ν α τ : Type) where
  state : τ
  env : ω
  /-- All that happened. -/
  trace : List (Moment ν α)
  /-- For each stimulus the fatal error that escaped, if one did. -/
  results : List (Option Fatal)

namespace Run

def start (state : τ) (env : ω) : Run ω ν α τ :=
  { state, env, trace := [], results := [] }

/-- The run with one more outcome. -/
def extend (run : Run ω ν α τ) (outcome : Outcome ω ν α τ) : Run ω ν α τ :=
  { state := outcome.state
    env := outcome.env
    trace := run.trace ++ outcome.trace
    results := run.results ++ [outcome.escaped] }

/-- The run with all of a later one after it. -/
def append (run later : Run ω ν α τ) : Run ω ν α τ :=
  { state := later.state
    env := later.env
    trace := run.trace ++ later.trace
    results := run.results ++ later.results }

/-- No fatal error escaped so far. -/
def Calm (run : Run ω ν α τ) : Prop := ∀ result ∈ run.results, result = none

lemma calm_extend {run : Run ω ν α τ} {outcome : Outcome ω ν α τ} :
    (run.extend outcome).Calm ↔ run.Calm ∧ outcome.escaped = none := by
  simp [Calm, extend, or_imp, forall_and]

end Run

namespace Subscriber

variable (S : Subscriber ω ν α)

/-- What one stimulus comes to.  A call changes no state, and a consumer without a handle makes
none. -/
def respond (stimulus : Stimulus α) (state : S.State) (env : ω) : Outcome ω ν α S.State :=
  match stimulus with
  | .signal signal => S.receive signal state env
  | .call call => { state, env, trace := (S.call? call state).getD [], escaped := none }

/-- What stimuli come to, one after the other. -/
def run (stimuli : List (Stimulus α)) (state : S.State) (env : ω) : Run ω ν α S.State :=
  stimuli.foldl (fun run stimulus => run.extend (S.respond stimulus run.state run.env))
    (.start state env)

/-- What stimuli come to from the beginning. -/
def history (stimuli : List (Stimulus α)) (env : ω) : Run ω ν α S.State :=
  S.run stimuli S.init env

lemma run_concat (stimuli : List (Stimulus α)) (stimulus : Stimulus α) (state : S.State)
    (env : ω) :
    S.run (stimuli ++ [stimulus]) state env
      = (S.run stimuli state env).extend
          (S.respond stimulus (S.run stimuli state env).state (S.run stimuli state env).env) := by
  simp only [run, List.foldl_append, List.foldl_cons, List.foldl_nil]

lemma run_append (stimuli later : List (Stimulus α)) (state : S.State) (env : ω) :
    S.run (stimuli ++ later) state env
      = (S.run stimuli state env).append
          (S.run later (S.run stimuli state env).state (S.run stimuli state env).env) := by
  induction later using List.reverseRecOn with
  | nil => simp [run, Run.append, Run.start]
  | append_singleton later stimulus ih =>
      rw [← List.append_assoc, run_concat, run_concat, ih]
      simp [Run.append, Run.extend]

/-- What one more stimulus comes to after a history. -/
def after (past : List (Stimulus α)) (stimulus : Stimulus α) (env : ω) : Outcome ω ν α S.State :=
  S.respond stimulus (S.history past env).state (S.history past env).env

lemma history_concat (past : List (Stimulus α)) (stimulus : Stimulus α) (env : ω) :
    S.history (past ++ [stimulus]) env = (S.history past env).extend (S.after past stimulus env) :=
  S.run_concat past stimulus S.init env

lemma history_append_cons (past : List (Stimulus α)) (stimulus : Stimulus α)
    (later : List (Stimulus α)) (env : ω) :
    S.history (past ++ stimulus :: later) env
      = (S.history (past ++ [stimulus]) env).append
          (S.run later (S.after past stimulus env).state (S.after past stimulus env).env) := by
  have hconcat := S.history_concat past stimulus env
  rw [List.append_cons, history, run_append, ← history, hconcat]
  rfl

/-- All that happens in a history with one stimulus in the middle of it. -/
lemma trace_history_append_cons (past : List (Stimulus α)) (stimulus : Stimulus α)
    (later : List (Stimulus α)) (env : ω) :
    (S.history (past ++ stimulus :: later) env).trace
      = (S.history past env).trace ++ (S.after past stimulus env).trace
        ++ (S.run later (S.after past stimulus env).state
            (S.after past stimulus env).env).trace := by
  rw [history_append_cons, history_concat]
  rfl

/-- **Induction over runs.**  What holds of the empty run and is kept by every stimulus holds of
every run. -/
theorem run_induction {motive : List (Stimulus α) → Run ω ν α S.State → Prop} {state : S.State}
    {env : ω} (start : motive [] (.start state env))
    (step : ∀ past run stimulus, motive past run →
      motive (past ++ [stimulus]) (run.extend (S.respond stimulus run.state run.env)))
    (stimuli : List (Stimulus α)) : motive stimuli (S.run stimuli state env) := by
  induction stimuli using List.reverseRecOn with
  | nil => exact start
  | append_singleton past stimulus ih =>
      rw [run_concat]
      exact step past _ stimulus ih

lemma eq_called_of_mem_respond {call : Call} {state : S.State} {env : ω} {moment : Moment ν α}
    (h : moment ∈ (S.respond (.call call) state env).trace) :
    ∃ channel call', moment.event = .called channel call' := by
  cases hheld : S.handle state with
  | none => simp [respond, call?, hheld] at h
  | some held =>
      simp only [respond, call?, hheld, Option.map_some, Option.getD_some, List.mem_map] at h
      obtain ⟨event, hevent, rfl⟩ := h
      exact eq_called_of_mem hevent

@[simp] lemma signalsAt_respond_call (layer : ℕ) (call : Call) (state : S.State) (env : ω) :
    signalsAt layer (S.respond (.call call) state env).trace = [] := by
  refine signalsAt_eq_nil fun moment h => ?_
  obtain ⟨channel, call', hevent⟩ := S.eq_called_of_mem_respond h
  simp only [hevent, Event.received?]

@[simp] lemma hookRunsAt_respond_call (layer : ℕ) (call : Call) (state : S.State) (env : ω) :
    hookRunsAt layer (S.respond (.call call) state env).trace = [] := by
  refine hookRunsAt_eq_nil fun moment h => ?_
  obtain ⟨channel, call', hevent⟩ := S.eq_called_of_mem_respond h
  simp only [hevent, Event.hookRun?]

end Subscriber

end SignalPeek
