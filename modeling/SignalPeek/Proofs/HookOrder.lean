import Mathlib.Tactic.Common
import SignalPeek.Proofs.Conduct
import SignalPeek.Proofs.Escape

/-!
# The order of hook runs

Whatever a layer is sent, in whatever order and whatever escapes on the way, its hooks run in a
fixed order: the seed first and once, then the hook for items any number of times, then the hook
for errors or the one for completion, and after the first failure nothing (`hooks_in_order`).

**The invariant.**  The runs so far fit the session (`Session.Ran`): none while it is fresh, the
seed and items without a failure while it is active, and any orderly row once it has ended.  One
conduct keeps the fit (`Conduct.ran`).

**Place.**  Each run answers the signal of the very call that it happens in, so the hook for errors
is shown errors that were sent and never one that the layer made itself.
-/

namespace SignalPeek

variable {ω ν α σ : Type}

def HookRun.kind (run : HookRun ν α) : SignalKind := run.occasion.kind

lemma Signal.kind_run (signal : Signal α) (failure : Option HookError) (note : ν) :
    (signal.run failure note).kind = signal.kind := signal.kind_occasion

/-- **The order of the hooks of one subscription**, as a shape: a seed or none, items, and an ending
or none.  Only the last run may have failed. -/
structure Orderly (runs : List (HookRun ν α)) : Prop where
  shape : ∃ seeds items endings, runs = seeds ++ items ++ endings
    ∧ seeds.length ≤ 1 ∧ endings.length ≤ 1
    ∧ (∀ run ∈ seeds, run.kind = .subscribe) ∧ (∀ run ∈ items, run.kind = .next)
    ∧ ∀ run ∈ endings, run.kind = .error ∨ run.kind = .complete
  failure_last : ∀ run ∈ runs.dropLast, run.failure = none

/-- A hook runs if the signal is due and there is a hook for it, and is shown the signal. -/
lemma Conduct.occasions {hooks : Hooks ω ν α σ} {config : Config} {session session' : Session σ}
    {signal : Signal α} {events : List (Standing × Event ν α)} {exit : Exit α}
    (conduct : Conduct hooks config session signal events session' exit) :
    (events.filterMap (·.2.hookRun?)).map (·.occasion)
      = if session.accepts signal && hooks.watches signal.kind then [signal.occasion] else [] := by
  cases conduct with
  | refused undue => simp [undue]
  | passed due note there state =>
      rw [due.accepts, there]
      cases note <;> simp [Signal.run]
  | replaced due note fails route state =>
      simp [List.filterMap_cons, due.accepts, fails.watches, Signal.run]
  | escaped due note fails route state =>
      simp [List.filterMap_cons, due.accepts, fails.watches, Signal.run]

/-- The runs of a subscription that goes on: the seed, if there is a hook for it, then items, and no
failure. -/
structure Underway (watched : Bool) (runs : List (HookRun ν α)) : Prop where
  shape : ∃ seeds items, runs = seeds ++ items ∧ seeds.length = watched.toNat
    ∧ (∀ run ∈ seeds, run.kind = .subscribe) ∧ ∀ run ∈ items, run.kind = .next
  calm : ∀ run ∈ runs, run.failure = none

lemma Underway.orderly {watched : Bool} {runs : List (HookRun ν α)}
    (underway : Underway watched runs) : Orderly runs := by
  obtain ⟨seeds, items, rfl, hlength, hseeds, hitems⟩ := underway.shape
  refine ⟨⟨seeds, items, [], by simp, ?_, by simp, hseeds, hitems, by simp⟩, ?_⟩
  · exact hlength ▸ Bool.toNat_le watched
  · exact fun run h => underway.calm run (List.dropLast_subset _ h)

lemma Underway.item {watched : Bool} {runs : List (HookRun ν α)} (underway : Underway watched runs)
    {run : HookRun ν α} (kind : run.kind = .next) (calm : run.failure = none) :
    Underway watched (runs ++ [run]) := by
  obtain ⟨seeds, items, rfl, hlength, hseeds, hitems⟩ := underway.shape
  refine ⟨⟨seeds, items ++ [run], by simp, hlength, hseeds, ?_⟩, ?_⟩
  · exact List.forall_mem_append.mpr ⟨hitems, List.forall_mem_singleton.mpr kind⟩
  · exact List.forall_mem_append.mpr ⟨underway.calm, List.forall_mem_singleton.mpr calm⟩

/-- The last run may be of any kind but a seed, and may have failed. -/
lemma Underway.last {watched : Bool} {runs : List (HookRun ν α)} (underway : Underway watched runs)
    {run : HookRun ν α} (kind : run.kind ≠ .subscribe) : Orderly (runs ++ [run]) := by
  have hcalm : ∀ earlier ∈ (runs ++ [run]).dropLast, earlier.failure = none := by
    rw [List.dropLast_concat]
    exact underway.calm
  obtain ⟨seeds, items, rfl, hlength, hseeds, hitems⟩ := underway.shape
  have hone : seeds.length ≤ 1 := hlength ▸ Bool.toNat_le watched
  cases hkind : run.kind with
  | subscribe => exact absurd hkind kind
  | next =>
      refine ⟨⟨seeds, items ++ [run], [], by simp, hone, by simp, hseeds, ?_, by simp⟩, hcalm⟩
      exact List.forall_mem_append.mpr ⟨hitems, List.forall_mem_singleton.mpr hkind⟩
  | error =>
      exact ⟨⟨seeds, items, [run], rfl, hone, Nat.le_refl 1, hseeds, hitems,
        List.forall_mem_singleton.mpr (Or.inl hkind)⟩, hcalm⟩
  | complete =>
      exact ⟨⟨seeds, items, [run], rfl, hone, Nat.le_refl 1, hseeds, hitems,
        List.forall_mem_singleton.mpr (Or.inr hkind)⟩, hcalm⟩

lemma orderly_seed {run : HookRun ν α} (kind : run.kind = .subscribe) : Orderly [run] :=
  ⟨⟨[run], [], [], rfl, Nat.le_refl 1, Nat.zero_le 1, List.forall_mem_singleton.mpr kind, by simp,
    by simp⟩, by simp⟩

/-- The hook runs so far fit where the session stands. -/
def Session.Ran (watched : Bool) : Session σ → List (HookRun ν α) → Prop
  | .fresh, runs => runs = []
  | .active _ _, runs => Underway watched runs
  | .terminated _ _, runs => Orderly runs

lemma Session.Ran.orderly {watched : Bool} {session : Session σ} {runs : List (HookRun ν α)}
    (ran : session.Ran watched runs) : Orderly runs := by
  cases session with
  | fresh =>
      obtain rfl : runs = [] := ran
      exact ⟨⟨[], [], [], rfl, by simp, by simp, by simp, by simp, by simp⟩, by simp⟩
  | active parent state => exact Underway.orderly ran
  | terminated parent state => exact ran

/-- One more run is in order when its signal was due, and then nothing more need follow. -/
lemma Session.Due.orderly {watched : Bool} {session : Session σ} {signal : Signal α}
    {parent : Subscription} (due : session.Due signal parent) {past : List (HookRun ν α)}
    (ran : session.Ran watched past) {run : HookRun ν α} (kind : run.kind = signal.kind) :
    Orderly (past ++ [run]) := by
  cases due with
  | opening parent =>
      obtain rfl : past = [] := ran
      exact orderly_seed kind
  | ongoing parent state accepted =>
      exact Underway.last ran (kind ▸ Session.kind_ne_of_active accepted)

/-- **A conduct keeps the hook runs in order.** -/
lemma Conduct.ran {hooks : Hooks ω ν α σ} {config : Config} {session session' : Session σ}
    {signal : Signal α} {events : List (Standing × Event ν α)} {exit : Exit α}
    (conduct : Conduct hooks config session signal events session' exit)
    {past : List (HookRun ν α)} (ran : session.Ran (hooks.watches .subscribe) past) :
    session'.Ran (hooks.watches .subscribe) (past ++ events.filterMap (·.2.hookRun?)) := by
  cases conduct with
  | refused undue => simpa using ran
  | @passed parent due note there state =>
      cases due with
      | opening parent =>
          -- Without a hook for the seed nothing runs, and the row of seeds stays empty.
          obtain rfl : past = [] := ran
          cases note with
          | none =>
              have absent : hooks.watches .subscribe = false := there
              exact ⟨⟨[], [], rfl, by rw [absent]; rfl, by simp, by simp⟩, by simp⟩
          | some note =>
              have present : hooks.watches .subscribe = true := there
              refine ⟨⟨[{ occasion := .seed, failure := none, note }], [], rfl, ?_, ?_, by simp⟩,
                List.forall_mem_singleton.mpr rfl⟩
              · rw [present]
                rfl
              · exact List.forall_mem_singleton.mpr rfl
      | ongoing parent state accepted =>
          have underway : Underway (hooks.watches .subscribe) past := ran
          cases note with
          | none =>
              simp only [Session.filterMap_under, Option.toList_none, List.map_nil,
                List.filterMap_nil, List.append_nil]
              cases signal with
              | subscribe _ => simp [Session.accepts] at accepted
              | next item => exact underway
              | error _ => exact underway.orderly
              | complete => exact underway.orderly
          | some note =>
              cases signal with
              | subscribe _ => simp [Session.accepts] at accepted
              | next item => exact underway.item rfl rfl
              | error _ => exact underway.last (by simp [Signal.kind_run, Signal.kind])
              | complete => exact underway.last (by simp [Signal.kind_run, Signal.kind])
  | replaced due note fails route state =>
      simpa [List.filterMap_cons, Session.Ran] using due.orderly ran (signal.kind_run (some _) note)
  | escaped due note fails route state =>
      simpa [List.filterMap_cons, Session.Ran] using due.orderly ran (signal.kind_run (some _) note)

/-! ## The place of one run -/

lemma Session.Due.parent?_eq_none {session : Session σ} {signal : Signal α} {parent : Subscription}
    (due : session.Due signal parent) (kind : signal.kind = .subscribe) :
    session.parent? = none := by
  cases due with
  | opening parent => rfl
  | ongoing parent state accepted => exact absurd kind (Session.kind_ne_of_active accepted)

lemma Session.Due.parent?_of_ne {session : Session σ} {signal : Signal α} {parent : Subscription}
    (due : session.Due signal parent) (kind : signal.kind ≠ .subscribe) :
    session.parent? = some parent := by
  cases due with
  | opening parent => exact absurd rfl kind
  | ongoing parent state accepted => rfl

/-- Before a hook that is no seed runs, the seed has succeeded if there is one. -/
lemma Session.Ran.seeded {watched : Bool} {session : Session σ} {runs : List (HookRun ν α)}
    (ran : session.Ran watched runs) {signal : Signal α} {parent : Subscription}
    (due : session.Due signal parent) (kind : signal.kind ≠ .subscribe) (there : watched = true) :
    ∃ seed ∈ runs, seed.kind = .subscribe ∧ seed.failure = none := by
  cases due with
  | opening parent => exact absurd rfl kind
  | ongoing parent state accepted =>
      obtain ⟨⟨seeds, items, rfl, hlength, hseeds, _⟩, calm⟩ : Underway watched runs := ran
      have hpos : 0 < seeds.length := by rw [hlength, there]; exact Nat.one_pos
      have hmem := List.getElem_mem hpos
      exact ⟨seeds[0], List.mem_append_left items hmem, hseeds _ hmem,
        calm _ (List.mem_append_left items hmem)⟩

namespace Layer

variable (layer : Layer ω ν α) (actual : Subscriber ω ν α)

/-- **The place of a hook run** in the call that it happens in, after a history. -/
structure InPlace (past : List (Stimulus α)) (stimulus : Stimulus α) (env : ω)
    (run : HookRun ν α) : Prop where
  /-- It answers the very signal of the call. -/
  answers : ∃ signal, stimulus = .signal signal ∧ run.occasion = signal.occasion
  /-- No other hook runs in the call. -/
  alone : hookRunsAt 0 ((layer.onto actual).after past stimulus env).trace = [run]
  /-- A seed runs when the first subscription comes. -/
  first : run.kind = .subscribe → subscriptions past = []
  /-- Any other hook runs after a subscription came and the seed, if there is one, succeeded. -/
  seeded : run.kind ≠ .subscribe → subscriptions past ≠ []
    ∧ (layer.hooks.seed.isSome → ∃ seed ∈ hookRunsAt 0 ((layer.onto actual).history past env).trace,
        seed.kind = .subscribe ∧ seed.failure = none)
  /-- After a failure no hook runs any more, and nothing is passed on in any later call. -/
  final : run.failure ≠ none →
    layer.Silent actual ((layer.onto actual).after past stimulus env).state
  /-- After a failure for good nothing is passed on in the call itself. -/
  mute : ∀ failure, run.failure = some failure → failure.severity = .fatal →
    signalsAt 1 ((layer.onto actual).after past stimulus env).trace = []

/-- **Induction over a run, as the layer sees it.**  What a turn keeps of the session and of the
hook runs so far holds after any run. -/
lemma session_induction {motive : Session layer.State → List (HookRun ν α) → Prop}
    (start : motive .fresh [])
    (turn : ∀ session runs signal env, motive session runs →
      motive (layer.turn session signal env).session
        (runs ++ (layer.turn session signal env).events.filterMap (·.2.hookRun?)))
    (stimuli : List (Stimulus α)) (env : ω) :
    motive (layer.sessionOf actual ((layer.onto actual).history stimuli env).state)
      (hookRunsAt 0 ((layer.onto actual).history stimuli env).trace) := by
  refine (layer.onto actual).run_induction
    (motive := fun _ run => motive (layer.sessionOf actual run.state) (hookRunsAt 0 run.trace))
    ?start ?step stimuli
  case start => exact start
  case step =>
    intro past run stimulus ih
    simp only [Run.extend, hookRunsAt_append]
    -- A call comes to no hook run, so only signals have to keep the fit.
    cases stimulus with
    | signal signal =>
        have hruns := layer.hookRunsAt_zero_receive_onto actual signal
          (layer.sessionOf actual run.state) (Prod.snd run.state) run.env
        have hsession := layer.sessionOf_receive actual signal run.state run.env
        have kept := turn _ _ signal run.env ih
        rw [← hruns, ← hsession] at kept
        exact kept
    | call call =>
        rw [Subscriber.hookRunsAt_respond_call, List.append_nil]
        exact ih

lemma ran_history (stimuli : List (Stimulus α)) (env : ω) :
    (layer.sessionOf actual ((layer.onto actual).history stimuli env).state).Ran
      (layer.hooks.watches .subscribe)
      (hookRunsAt 0 ((layer.onto actual).history stimuli env).trace) :=
  layer.session_induction actual
    (motive := fun session runs => session.Ran (layer.hooks.watches .subscribe) runs) rfl
    (fun session _ signal env ran => (layer.conduct session signal env).ran ran) stimuli env

/-- What a hook run says about the call that shows it. -/
lemma of_mem_hookRunsAt_receive {layer : Layer ω ν α} {actual : Subscriber ω ν α}
    {signal : Signal α} {state : (layer.onto actual).State} {env : ω} {run : HookRun ν α}
    (h : run ∈ hookRunsAt 0 ((layer.onto actual).receive signal state env).trace) :
    let outcome := (layer.onto actual).receive signal state env
    (∃ parent, (layer.sessionOf actual state).Due signal parent) ∧ run.occasion = signal.occasion
      ∧ hookRunsAt 0 outcome.trace = [run]
      ∧ (run.failure ≠ none → layer.Silent actual outcome.state)
      ∧ ∀ failure, run.failure = some failure → failure.severity = .fatal →
          signalsAt 1 outcome.trace = [] := by
  obtain ⟨session, below⟩ := state
  have hruns := layer.hookRunsAt_zero_receive_onto actual signal session below env
  have hsession := layer.sessionOf_receive actual signal (session, below) env
  obtain ⟨hdue, hoccasion, halone, hended, hnothing⟩ :=
    (layer.conduct session signal env).of_mem_hookRuns (hruns ▸ h)
  refine ⟨hdue, hoccasion, hruns.trans halone, fun failed => ?_, fun failure failed fatal => ?_⟩
  · exact silent_of_terminated (hsession ▸ hended failed)
  · rw [signalsAt_succ_receive_onto,
      passedOn_of_signals_eq_nil (hnothing failure failed fatal) below]
    rfl

lemma inPlace_of_mem {past : List (Stimulus α)} {stimulus : Stimulus α} {env : ω}
    {run : HookRun ν α}
    (h : run ∈ hookRunsAt 0 ((layer.onto actual).after past stimulus env).trace) :
    layer.InPlace actual past stimulus env run := by
  cases stimulus with
  | call call =>
      rw [Subscriber.after, Subscriber.hookRunsAt_respond_call] at h
      simp at h
  | signal signal =>
      obtain ⟨⟨parent, due⟩, hoccasion, halone, hfinal, hmute⟩ := of_mem_hookRunsAt_receive h
      have ran := layer.ran_history actual past env
      have hparent := layer.parent?_history actual past env
      have hkind : run.kind = signal.kind := by
        rw [HookRun.kind, hoccasion, signal.kind_occasion]
      refine ⟨⟨signal, rfl, hoccasion⟩, halone, ?first, ?seeded, hfinal, hmute⟩
      case first =>
        intro hsubscribe
        rw [due.parent?_eq_none (hkind ▸ hsubscribe)] at hparent
        exact List.head?_eq_none_iff.mp hparent.symm
      case seeded =>
        intro hother
        refine ⟨fun hnone => ?_, fun hseed => ran.seeded due (hkind ▸ hother) hseed⟩
        rw [due.parent?_of_ne (hkind ▸ hother), hnone] at hparent
        exact Option.some_ne_none parent hparent

/-- **Hooks run in order.**  After any stimuli, due or not and whatever escaped, the hook runs of a
layer are a seed or none, items, and an ending or none, and only the last of them failed.  Each run
is in its place. -/
theorem hooks_in_order (env : ω) :
    (∀ stimuli, Orderly (hookRunsAt 0 ((layer.onto actual).history stimuli env).trace))
      ∧ ∀ past stimulus, ∀ run ∈ hookRunsAt 0 ((layer.onto actual).after past stimulus env).trace,
          layer.InPlace actual past stimulus env run :=
  ⟨fun stimuli => (layer.ran_history actual stimuli env).orderly,
    fun _ _ _ h => layer.inPlace_of_mem actual h⟩

/-- A layer that counts items and fails for good over every completion. -/
def counting (note : ν) (fatal : Fatal) : Layer ω ν α where
  State := ℕ
  hooks :=
    { seed := some fun env => { result := .ok 0, note, env }
      next := some fun _ _ env => { effect := (· + 1), failure := none, note, env }
      error := none
      complete := some fun _ env => { effect := id, failure := some (.fatal fatal), note, env } }
  config := .standard

/-- The seed and an item are followed by a completion that fails for good, and that run has its
place. -/
theorem in_order_counting :
    let fatal : Fatal := .mk (.mk 0 (.message "stop"))
    let actual : Subscriber Unit Unit ℕ := (Consumer.asking 0).subscriber
    let past : List (Stimulus ℕ) := [.signal (.subscribe (.direct 0)), .signal (.next 1)]
    let run : HookRun Unit ℕ :=
      { occasion := .complete, failure := some (.fatal fatal), note := () }
    let runs := hookRunsAt 0
      (((counting () fatal).onto actual).history (past ++ [.signal .complete]) ()).trace
    runs.map HookRun.kind = [.subscribe, .next, .complete]
      ∧ Orderly runs
      ∧ run ∈ hookRunsAt 0
          (((counting () fatal).onto actual).after past (.signal .complete) ()).trace
      ∧ (counting () fatal).InPlace actual past (.signal .complete) () run := by
  intro fatal actual past run runs
  have order := hooks_in_order (counting () fatal) actual ()
  have hmem : run ∈ hookRunsAt 0
      (((counting () fatal).onto actual).after past (.signal .complete) ()).trace :=
    List.mem_singleton_self run
  exact ⟨rfl, order.1 (past ++ [.signal .complete]), hmem,
    order.2 past (.signal .complete) run hmem⟩

end Layer

end SignalPeek
