import Mathlib.Tactic.Common
import SignalPeek.Proofs.Passing
import SignalPeek.Proofs.Rerouting
import SignalPeek.Proofs.SeedFailures

/-!
# The state in the course of a subscription

The state that hooks share goes from hand to hand: the seed makes it, each hook that runs changes
it, and nothing else does.  Whether a hook fails depends on the state by then, so how many items get
through and what the state is in the end are found out together.

**Folding.**  `Hooks.fold` takes a state, with what the hooks share, through a row of signals, and
`Hooks.Passes` says that no hook fails on the way.

**Threading.**  The state of a layer is the fold over the signals that it took (`Layer.Threaded`).
One signal that is due keeps this so, with one more signal in the fold (`Threaded.receive_of_calm`,
`Threaded.receive_of_failure`), and what is not due changes nothing (`undue_run`).  So after any row
of items the fold is over all of them, or over those up to the first failure (`threaded_history`).
-/

namespace SignalPeek

variable {ω ν α σ : Type}

/-! ## Folding -/

namespace Hooks

variable (hooks : Hooks ω ν α σ)

/-- The state that the seed makes, if there is one, and what it leaves to the other hooks. -/
def start (env : ω) : Option σ × ω :=
  match hooks.seed with
  | .none => (.none, env)
  | .some seed => ((seed env).result.toOption, (seed env).env)

/-- What the hook for a signal makes of the state and of what the hooks share. -/
def step (now : Option σ × ω) (signal : Signal α) : Option σ × ω :=
  (hooks.stateAfter signal now.1 now.2, hooks.envAfter signal now.1 now.2)

def fold (now : Option σ × ω) (signals : List (Signal α)) : Option σ × ω :=
  signals.foldl hooks.step now

/-- No hook fails over these signals, each in the state that is reached by then. -/
def Passes : Option σ × ω → List (Signal α) → Prop
  | _, [] => True
  | now, signal :: signals =>
    hooks.failure? signal now.1 now.2 = .none ∧ Passes (hooks.step now signal) signals

variable {hooks}

lemma fold_concat (now : Option σ × ω) (signals : List (Signal α)) (signal : Signal α) :
    hooks.fold now (signals ++ [signal]) = hooks.step (hooks.fold now signals) signal := by
  simp only [fold, List.foldl_append, List.foldl_cons, List.foldl_nil]

lemma passes_concat {now : Option σ × ω} {signals : List (Signal α)} {signal : Signal α} :
    hooks.Passes now (signals ++ [signal])
      ↔ hooks.Passes now signals
        ∧ hooks.failure? signal (hooks.fold now signals).1 (hooks.fold now signals).2 = .none := by
  induction signals generalizing now with
  | nil => simp [Passes, fold]
  | cons first signals ih =>
      simp only [List.cons_append, Passes, ih, and_assoc]
      rfl

/-- The hook fails over an item, and it is the first failure after the items before it. -/
structure FailsAfter (hooks : Hooks ω ν α σ) (now : Option σ × ω) (passed : List α) (x : α) :
    Prop where
  passes : hooks.Passes now (passed.map .next)
  fails : hooks.failure? (.next x) (hooks.fold now (passed.map .next)).1
    (hooks.fold now (passed.map .next)).2 ≠ .none

/-- Over a row of items no hook fails, or there is a first one that does. -/
lemma passes_or_fails (now : Option σ × ω) (items : List α) :
    hooks.Passes now (items.map .next)
      ∨ ∃ passed x rest, items = passed ++ x :: rest ∧ hooks.FailsAfter now passed x := by
  induction items using List.reverseRecOn with
  | nil => exact Or.inl trivial
  | append_singleton items x ih =>
      rcases ih with passes | ⟨passed, y, rest, rfl, first⟩
      · rw [List.map_append, List.map_singleton, passes_concat]
        by_cases fails : hooks.failure? (.next x) (hooks.fold now (items.map .next)).1
            (hooks.fold now (items.map .next)).2 = .none
        · exact Or.inl ⟨passes, fails⟩
        · exact Or.inr ⟨items, x, [], rfl, passes, fails⟩
      · exact Or.inr ⟨passed, y, rest ++ [x], by simp, first⟩

end Hooks

/-! ## Below a layer -/

/-- A subscriber that has no part in what hooks share. -/
def Subscriber.Aloof (S : Subscriber ω ν α) : Prop :=
  ∀ signal state env, (S.receive signal state env).env = env

lemma Subscriber.Aloof.receiveAll {S : Subscriber ω ν α} (aloof : S.Aloof)
    (signals : List (Signal α)) (state : S.State) (env : ω) :
    (S.receiveAll signals state env).env = env := by
  induction signals generalizing state env with
  | nil => rfl
  | cons signal signals ih =>
      rw [Subscriber.receiveAll]
      cases hescaped : (S.receive signal state env).escaped with
      | some fatal => rw [Outcome.andThen_of_escaped hescaped, aloof]
      | none =>
          rw [Outcome.andThen_of_not_escaped hescaped]
          exact (ih _ _).trans (aloof signal state env)

lemma Consumer.aloof (C : Consumer α) : (C.subscriber : Subscriber ω ν α).Aloof :=
  fun _ _ _ => rfl

/-- What takes the place of a signal brings no item. -/
lemma Signal.filterMap_item?_substitutes (signal : Signal α) (error : StreamError) :
    (signal.substitutes error).filterMap Signal.item? = [] := by
  cases signal <;> rfl

/-! ## Threading -/

lemma Session.Due.of_active {session : Session σ} {parent : Subscription} {state : Option σ}
    (h : session = .active parent state) {signal : Signal α}
    (accepted : (active parent state).accepts signal = true) : session.Due signal parent := by
  rw [h]
  exact .ongoing parent state accepted

namespace Layer

variable {layer : Layer ω ν α} {actual : Subscriber ω ν α}

/-- **The state is threaded** through the signals that a layer took after a subscription: it is
their fold, just the hooks for them ran, and the items that went through are these. -/
structure Threaded (layer : Layer ω ν α) (actual : Subscriber ω ν α) (offered : Subscription)
    (start : Option layer.State × ω) (taken : List (Signal α)) (through : List α)
    (run : Run ω ν α (layer.onto actual).State) : Prop where
  state : (layer.sessionOf actual run.state).state? = (layer.hooks.fold start taken).1
  shared : run.env = (layer.hooks.fold start taken).2
  runs : (hookRunsAt 0 run.trace).map (·.occasion)
    = ((.subscribe offered :: taken).filter (layer.hooks.watches ·.kind)).map Signal.occasion
  through : itemsAt 1 run.trace = through

/-- The hook for a signal that is due runs if there is one. -/
lemma occasions_receive {signal : Signal α} {state : (layer.onto actual).State}
    (due : (layer.sessionOf actual state).accepts signal = true) (env : ω) :
    (hookRunsAt 0 ((layer.onto actual).receive signal state env).trace).map (·.occasion)
      = ([signal].filter (layer.hooks.watches ·.kind)).map Signal.occasion := by
  obtain ⟨session, below⟩ := state
  rw [hookRunsAt_zero_receive_onto, (layer.conduct session signal env).occasions,
    show session.accepts signal = true from due, Bool.true_and]
  cases h : layer.hooks.watches signal.kind <;> simp [h]

/-- What the hooks share is what the hook of this layer left. -/
lemma env_receive (aloof : actual.Aloof) {signal : Signal α} {state : (layer.onto actual).State}
    (env : ω) :
    ((layer.onto actual).receive signal state env).env
      = (layer.turn (layer.sessionOf actual state) signal env).env := by
  obtain ⟨session, below⟩ := state
  rw [receive_onto]
  exact aloof.receiveAll _ below _

lemma itemsAt_one_of_calm (hactual : actual.Attentive) {signal : Signal α}
    {state : (layer.onto actual).State} {env : ω}
    (calm : (layer.turn (layer.sessionOf actual state) signal env).exit
      = .forward [signal.relayed]) :
    itemsAt 1 ((layer.onto actual).receive signal state env).trace = signal.item?.toList := by
  obtain ⟨session, below⟩ := state
  have heard := heard_receive_onto hactual signal session below env
  rw [show (layer.turn session signal env).exit = _ from calm] at heard
  rw [itemsAt, heard.singleton, ← signal.item?_relayed]
  cases h : signal.relayed.item? <;> simp [h]

lemma itemsAt_one_of_failure (hactual : actual.Attentive) {signal : Signal α}
    {state : (layer.onto actual).State} {env : ω} {parent : Subscription}
    (due : (layer.sessionOf actual state).Due signal parent) {failure : HookError}
    (failed : layer.hooks.failure? signal (layer.sessionOf actual state).state? env
      = some failure) :
    itemsAt 1 ((layer.onto actual).receive signal state env).trace = [] := by
  obtain ⟨session, below⟩ := state
  have heard := heard_receive_onto hactual signal session below env
  have barren : (layer.turn session signal env).exit.signals.filterMap Signal.item? = [] := by
    have hexit := (Session.turn_of_failure layer.hooks layer.config due failed).1
    rcases hexit with ⟨fatal, -, hescape⟩ | ⟨error, -, hforward⟩
    · rw [show (layer.turn session signal env).exit = _ from hescape]
      rfl
    · rw [show (layer.turn session signal env).exit = _ from hforward]
      exact signal.filterMap_item?_substitutes error
  have hitems := heard.initial.sublist.filterMap Signal.item?
  rw [barren] at hitems
  exact List.sublist_nil.mp hitems

namespace Threaded

variable {offered : Subscription} {start : Option layer.State × ω} {taken : List (Signal α)}
  {through : List α} {run : Run ω ν α (layer.onto actual).State}

lemma stateAfter_eq (threaded : layer.Threaded actual offered start taken through run)
    (signal : Signal α) :
    layer.hooks.stateAfter signal (layer.sessionOf actual run.state).state? run.env
      = (layer.hooks.fold start (taken ++ [signal])).1 := by
  rw [Hooks.fold_concat, Hooks.step, threaded.state, threaded.shared]

/-- A signal that is due adds to the fold, and to the runs of the hooks. -/
lemma extend (threaded : layer.Threaded actual offered start taken through run)
    (aloof : actual.Aloof) {signal : Signal α}
    (due : (layer.sessionOf actual run.state).accepts signal = true) {items : List α}
    (hitems : itemsAt 1 ((layer.onto actual).receive signal run.state run.env).trace = items)
    (hstate : (layer.turn (layer.sessionOf actual run.state) signal run.env).session.state?
      = layer.hooks.stateAfter signal (layer.sessionOf actual run.state).state? run.env) :
    layer.Threaded actual offered start (taken ++ [signal]) (through ++ items)
      (run.extend ((layer.onto actual).receive signal run.state run.env)) := by
  have heeds := Session.heeds_turn layer.hooks layer.config due run.env
  refine ⟨?state, ?shared, ?runs, ?through⟩
  case state =>
    rw [← threaded.stateAfter_eq signal, ← hstate]
    exact congrArg Session.state? (layer.sessionOf_receive actual signal run.state run.env)
  case shared =>
    rw [Hooks.fold_concat, Hooks.step, ← threaded.state, ← threaded.shared, ← heeds.shared]
    exact env_receive aloof run.env
  case runs =>
    rw [← List.cons_append, List.filter_append, List.map_append, ← threaded.runs,
      ← occasions_receive due run.env, ← List.map_append, ← hookRunsAt_append]
    rfl
  case through =>
    rw [← threaded.through, ← hitems, ← itemsAt_append]
    rfl

/-- **One signal that no hook objects to** goes through, and is threaded. -/
lemma receive_of_calm (threaded : layer.Threaded actual offered start taken through run)
    (hactual : actual.Attentive) (aloof : actual.Aloof) {signal : Signal α} {parent : Subscription}
    (due : (layer.sessionOf actual run.state).Due signal parent)
    (ongoing : signal.kind ≠ .subscribe)
    (calm : layer.hooks.failure? signal (layer.hooks.fold start taken).1
      (layer.hooks.fold start taken).2 = none) :
    let run' := run.extend ((layer.onto actual).receive signal run.state run.env)
    layer.sessionOf actual run'.state
        = .after signal parent (layer.hooks.fold start (taken ++ [signal])).1
      ∧ layer.Threaded actual offered start (taken ++ [signal]) (through ++ signal.item?.toList)
          run' := by
  rw [← threaded.state, ← threaded.shared] at calm
  obtain ⟨hexit, hafter⟩ := Session.turn_of_calm layer.hooks layer.config due ongoing calm
  rw [← threaded.stateAfter_eq signal]
  refine ⟨(layer.sessionOf_receive actual signal run.state run.env).trans hafter,
    threaded.extend aloof due.accepts (itemsAt_one_of_calm hactual hexit) ?_⟩
  exact (congrArg Session.state? hafter).trans (Session.state?_after signal parent _)

/-- **One signal over which a hook fails** ends the layer and does not go through, but it is
threaded all the same. -/
lemma receive_of_failure (threaded : layer.Threaded actual offered start taken through run)
    (hactual : actual.Attentive) (aloof : actual.Aloof) {signal : Signal α} {parent : Subscription}
    (due : (layer.sessionOf actual run.state).Due signal parent)
    (fails : layer.hooks.failure? signal (layer.hooks.fold start taken).1
      (layer.hooks.fold start taken).2 ≠ none) :
    let run' := run.extend ((layer.onto actual).receive signal run.state run.env)
    (layer.sessionOf actual run'.state).phase = .terminated
      ∧ layer.Threaded actual offered start (taken ++ [signal]) through run' := by
  rw [← threaded.state, ← threaded.shared] at fails
  obtain ⟨failure, failed⟩ := Option.ne_none_iff_exists'.mp fails
  have hended := (Session.turn_of_failure layer.hooks layer.config due failed).2
  have hitems := itemsAt_one_of_failure hactual due failed
  have hsession := (layer.sessionOf_receive actual signal run.state run.env).trans hended
  refine ⟨congrArg Session.phase hsession, ?_⟩
  have extended := threaded.extend aloof due.accepts hitems (congrArg Session.state? hended)
  rwa [List.append_nil] at extended

/-- **A terminal signal** ends the layer, and is threaded whether or not a hook fails over it. -/
lemma receive_of_terminal (threaded : layer.Threaded actual offered start taken through run)
    (hactual : actual.Attentive) (aloof : actual.Aloof) {signal : Signal α} {parent : Subscription}
    (due : (layer.sessionOf actual run.state).Due signal parent)
    (terminal : signal.isTerminal = true) :
    let run' := run.extend ((layer.onto actual).receive signal run.state run.env)
    (layer.sessionOf actual run'.state).phase = .terminated
      ∧ layer.Threaded actual offered start (taken ++ [signal]) through run' := by
  by_cases calm : layer.hooks.failure? signal (layer.hooks.fold start taken).1
      (layer.hooks.fold start taken).2 = none
  · have ongoing : signal.kind ≠ .subscribe := by
      cases signal <;> simp [Signal.isTerminal, Signal.kind] at terminal ⊢
    have barren : signal.item? = none := by
      cases signal <;> first | rfl | simp [Signal.isTerminal] at terminal
    obtain ⟨hsession, extended⟩ := threaded.receive_of_calm hactual aloof due ongoing calm
    rw [barren, Option.toList_none, List.append_nil] at extended
    rw [Session.after, if_pos terminal] at hsession
    exact ⟨congrArg Session.phase hsession, extended⟩
  · exact threaded.receive_of_failure hactual aloof due calm

/-- What comes after the end is not threaded, and changes nothing. -/
lemma append (threaded : layer.Threaded actual offered start taken through run)
    (ended : (layer.sessionOf actual run.state).phase = .terminated)
    (late : List (Stimulus α)) :
    layer.Threaded actual offered start taken through
      (run.append ((layer.onto actual).run late run.state run.env)) := by
  obtain ⟨hstate, henv, hruns, hsignals⟩ := run_of_terminated ended late run.env
  have hitems : itemsAt 1 ((layer.onto actual).run late run.state run.env).trace = [] := by
    rw [itemsAt, hsignals 0]
    rfl
  refine ⟨?state, ?shared, ?runs, ?through⟩
  case state =>
    rw [← threaded.state]
    exact congrArg (fun state => (layer.sessionOf actual state).state?) hstate
  case shared => exact henv.trans threaded.shared
  case runs =>
    rw [← threaded.runs]
    simp only [Run.append, hookRunsAt_append, hruns, List.append_nil]
  case through =>
    rw [← threaded.through]
    simp only [Run.append, itemsAt_append, hitems, List.append_nil]

/-- After the last signal that was taken, whatever else is done comes to nothing. -/
lemma history {past : List (Stimulus α)} {env : ω} {signal : Signal α}
    (last : (layer.sessionOf actual
          ((layer.onto actual).after past (.signal signal) env).state).phase = .terminated
      ∧ layer.Threaded actual offered start taken through (((layer.onto actual).history past
          env).extend ((layer.onto actual).after past (.signal signal) env)))
    (late : List (Stimulus α)) :
    layer.Threaded actual offered start taken through
      ((layer.onto actual).history (past ++ .signal signal :: late) env) := by
  obtain ⟨ended, threaded⟩ := last
  rw [Subscriber.history_append_cons, Subscriber.history_concat]
  exact threaded.append ended late

end Threaded

/-! ## The run -/

/-- A subscription and then items, after whatever was done before. -/
def feeding (early : List (Stimulus α)) (offered : Subscription) (items : List α) :
    List (Stimulus α) :=
  early ++ [.signal (.subscribe offered)] ++ items.map fun item => .signal (.next item)

lemma feeding_concat (early : List (Stimulus α)) (offered : Subscription) (items : List α)
    (item : α) :
    feeding early offered (items ++ [item])
      = feeding early offered items ++ [.signal (.next item)] := by
  simp [feeding]

lemma feeding_append (early : List (Stimulus α)) (offered : Subscription) (items later : List α) :
    feeding early offered (items ++ later)
      = feeding early offered items ++ later.map fun item => .signal (.next item) := by
  simp [feeding]

/-- What a layer makes of a subscription, if no seed fails. -/
lemma turn_opening (layer : Layer ω ν α) (offered : Subscription) {env : ω}
    (seeded : ∀ seed ∈ layer.hooks.seed, ∃ state, (seed env).result = .ok state) :
    (layer.turn .fresh (.subscribe offered) env).session
        = .active offered (layer.hooks.start env).1
      ∧ (layer.turn .fresh (.subscribe offered) env).env = (layer.hooks.start env).2
      ∧ (layer.turn .fresh (.subscribe offered) env).exit
        = .forward [.subscribe (.relay offered)] := by
  change (Session.begin layer.hooks layer.config offered env).session = _
    ∧ (Session.begin layer.hooks layer.config offered env).env = _
    ∧ (Session.begin layer.hooks layer.config offered env).exit = _
  unfold Session.begin Hooks.start
  cases hseed : layer.hooks.seed with
  | none => exact ⟨rfl, rfl, rfl⟩
  | some seed =>
      obtain ⟨state, hresult⟩ := seeded seed hseed
      simp [hresult, Except.toOption]

variable {early : List (Stimulus α)} (offered : Subscription) {env : ω}

/-- The first subscription begins the fold, whatever came before it. -/
lemma threaded_opening (hactual : actual.Attentive) (aloof : actual.Aloof)
    (unsubscribed : subscriptions early = [])
    (seeded : ∀ seed ∈ layer.hooks.seed, ∃ state, (seed env).result = .ok state) :
    let run := (layer.onto actual).history (early ++ [.signal (.subscribe offered)]) env
    layer.sessionOf actual run.state = .active offered (layer.hooks.start env).1
      ∧ layer.Threaded actual offered (layer.hooks.start env) [] [] run := by
  obtain ⟨hstate, henv, hruns, hsignals⟩ := history_of_unsubscribed layer actual unsubscribed env
  obtain ⟨hsession, hshared, hexit⟩ := layer.turn_opening offered seeded
  have hafter := after_of_unsubscribed layer actual unsubscribed (.subscribe offered) env
  rw [henv] at hafter
  have hsession' := (layer.sessionOf_receive actual (.subscribe offered)
    (layer.onto actual).init env).trans hsession
  have hruns' : (hookRunsAt 0 ((layer.onto actual).receive (.subscribe offered)
      (layer.onto actual).init env).trace).map (·.occasion) = _ := occasions_receive rfl env
  have hitems : itemsAt 1 ((layer.onto actual).history early env).trace = [] := by
    rw [itemsAt, hsignals 0]
    rfl
  have hitems' : itemsAt 1 ((layer.onto actual).receive (.subscribe offered)
      (layer.onto actual).init env).trace = [] := itemsAt_one_of_calm hactual hexit
  rw [Subscriber.history_concat, hafter]
  refine ⟨hsession', congrArg Session.state? hsession', ?shared, ?runs, ?through⟩
  case shared => exact (env_receive aloof env).trans hshared
  case runs =>
    simp only [Run.extend, hookRunsAt_append, hruns, List.nil_append]
    exact hruns'
  case through =>
    simp only [Run.extend, itemsAt_append, hitems, hitems', List.append_nil]

/-- Items are threaded as long as no hook fails over them. -/
lemma threaded_items (hactual : actual.Attentive) (aloof : actual.Aloof)
    (unsubscribed : subscriptions early = [])
    (seeded : ∀ seed ∈ layer.hooks.seed, ∃ state, (seed env).result = .ok state) (items : List α)
    (passes : layer.hooks.Passes (layer.hooks.start env) (items.map .next)) :
    let run := (layer.onto actual).history (feeding early offered items) env
    layer.sessionOf actual run.state
        = .active offered (layer.hooks.fold (layer.hooks.start env) (items.map .next)).1
      ∧ layer.Threaded actual offered (layer.hooks.start env) (items.map .next) items run := by
  induction items using List.reverseRecOn with
  | nil =>
      rw [feeding, List.map_nil, List.append_nil]
      exact threaded_opening offered hactual aloof unsubscribed seeded
  | append_singleton items x ih =>
      rw [List.map_append, List.map_singleton, Hooks.passes_concat] at passes
      obtain ⟨hsession, threaded⟩ := ih passes.1
      have due : (layer.sessionOf actual _).Due (.next x) offered := .of_active hsession rfl
      rw [feeding_concat, Subscriber.history_concat, List.map_append, List.map_singleton]
      exact threaded.receive_of_calm hactual aloof due (by simp [Signal.kind]) passes.2

/-- A terminal signal after items that no hook fails over is the last that is threaded. -/
lemma threaded_to_terminal (hactual : actual.Attentive) (aloof : actual.Aloof)
    (unsubscribed : subscriptions early = [])
    (seeded : ∀ seed ∈ layer.hooks.seed, ∃ state, (seed env).result = .ok state) {items : List α}
    (passes : layer.hooks.Passes (layer.hooks.start env) (items.map .next)) {terminal : Signal α}
    (hterminal : terminal.isTerminal = true) (late : List (Stimulus α)) :
    layer.Threaded actual offered (layer.hooks.start env) (items.map .next ++ [terminal]) items
      ((layer.onto actual).history (feeding early offered items ++ .signal terminal :: late)
        env) := by
  obtain ⟨hsession, threaded⟩ :=
    threaded_items offered hactual aloof unsubscribed seeded items passes
  have accepted : (Session.active offered
      (layer.hooks.fold (layer.hooks.start env) (items.map .next)).1).accepts terminal = true := by
    cases terminal <;> first | rfl | simp [Signal.isTerminal] at hterminal
  exact Threaded.history
    (threaded.receive_of_terminal hactual aloof (.of_active hsession accepted) hterminal) late

/-- The first item that a hook fails over is the last signal that is threaded. -/
lemma threaded_to_failure (hactual : actual.Attentive) (aloof : actual.Aloof)
    (unsubscribed : subscriptions early = [])
    (seeded : ∀ seed ∈ layer.hooks.seed, ∃ state, (seed env).result = .ok state)
    {passed : List α} {x : α} (first : layer.hooks.FailsAfter (layer.hooks.start env) passed x)
    (rest : List α) (later : List (Stimulus α)) :
    layer.Threaded actual offered (layer.hooks.start env) ((passed ++ [x]).map .next) passed
      ((layer.onto actual).history (feeding early offered (passed ++ x :: rest) ++ later) env) := by
  obtain ⟨hsession, threaded⟩ :=
    threaded_items offered hactual aloof unsubscribed seeded passed first.passes
  have last := threaded.receive_of_failure hactual aloof (.of_active hsession rfl) first.fails
  have hfed : feeding early offered (passed ++ x :: rest) ++ later
      = feeding early offered passed ++ .signal (.next x)
        :: (rest.map (fun item => .signal (.next item)) ++ later) := by
    simp only [feeding_append, List.map_cons, List.append_assoc, List.cons_append]
  rw [hfed, List.map_append, List.map_singleton]
  exact Threaded.history last _

/-- No signal is due after the end, and only a subscription before the first. -/
lemma undue_of_early_or_late (layer : Layer ω ν α) (actual : Subscriber ω ν α)
    {past : List (Stimulus α)} {signal : Signal α} (env : ω)
    (early : subscriptions past = [] ∧ signal.kind ≠ .subscribe
      ∨ (layer.sessionOf actual ((layer.onto actual).history past env).state).phase
        = .terminated) :
    (layer.sessionOf actual ((layer.onto actual).history past env).state).accepts signal
      = false := by
  rcases early with ⟨unsubscribed, other⟩ | ended
  · have fresh : layer.sessionOf actual ((layer.onto actual).history past env).state = .fresh :=
      congrArg (layer.sessionOf actual)
        (history_of_unsubscribed layer actual unsubscribed env).1
    rw [fresh]
    cases signal <;> first | rfl | simp [Signal.kind] at other
  · exact not_accepts_of_terminated ended signal

/-- **The state is threaded through exactly the signals that are taken.**  A layer over a consumer
is offered a subscription and fed items, after anything but a subscription, and its seed does not
fail.  Over the items no hook fails, or there is a first failure.  In the first case all items go
through, and the state is the fold over them and over the terminal signal that follows, if one does.
In the second case the items before the failure go through, the state is the fold up to the failure,
and no hook for a terminal signal runs.  Whatever is done to the layer after the end changes
nothing.  A signal before the subscription or after the end leaves the layer, what its hooks share
and the consumer as they are. -/
theorem threaded_history (layer : Layer ω ν α) (C : Consumer α) (env : ω) :
    let actual : Subscriber ω ν α := C.subscriber
    let S := layer.onto actual
    let start := layer.hooks.start env
    (∀ early offered, subscriptions early = [] →
      (∀ seed ∈ layer.hooks.seed, ∃ state, (seed env).result = .ok state) →
        let fed (items : List α) (later : List (Stimulus α)) :=
          S.history (feeding early offered items ++ later) env
        (∀ items, layer.hooks.Passes start (items.map .next)
            ∨ ∃ passed x rest, items = passed ++ x :: rest ∧ layer.hooks.FailsAfter start passed x)
          ∧ (∀ items, layer.hooks.Passes start (items.map .next) →
            layer.Threaded actual offered start (items.map .next) items (fed items [])
              ∧ ∀ terminal, terminal.isTerminal = true → ∀ late,
                  layer.Threaded actual offered start (items.map .next ++ [terminal]) items
                    (fed items (.signal terminal :: late)))
          ∧ ∀ passed x, layer.hooks.FailsAfter start passed x → ∀ rest later,
              layer.Threaded actual offered start ((passed ++ [x]).map .next) passed
                (fed (passed ++ x :: rest) later))
      ∧ ∀ past signal, (subscriptions past = [] ∧ signal.kind ≠ .subscribe
            ∨ (layer.sessionOf actual (S.history past env).state).phase = .terminated) →
          let before := S.history past env
          let outcome := S.after past (.signal signal) env
          outcome.state = before.state ∧ outcome.env = before.env ∧ outcome.escaped = none
            ∧ hookRunsAt 0 outcome.trace = [] ∧ signalsAt 1 outcome.trace = [] := by
  intro actual S start
  have hactual : actual.Attentive := C.attentive
  have aloof : actual.Aloof := C.aloof
  constructor
  · intro early offered unsubscribed seeded fed
    refine ⟨Hooks.passes_or_fails start, fun items passes => ⟨?passing, ?ending⟩, ?failing⟩
    case passing =>
      rw [show fed items [] = _ from congrArg (S.history · env) (List.append_nil _)]
      exact (threaded_items offered hactual aloof unsubscribed seeded items passes).2
    case ending =>
      intro terminal hterminal late
      exact threaded_to_terminal offered hactual aloof unsubscribed seeded passes hterminal late
    case failing =>
      intro passed x first rest later
      exact threaded_to_failure offered hactual aloof unsubscribed seeded first rest later
  · intro past signal early before outcome
    have undue : ∀ s, Stimulus.signal signal = .signal s →
        (layer.sessionOf actual before.state).accepts s = false := by
      rintro _ ⟨⟩
      exact undue_of_early_or_late layer actual env early
    obtain ⟨hstate, henv, hescaped, hruns, hsignals⟩ := undue_respond undue before.env
    exact ⟨hstate, henv, hescaped, hruns, hsignals 0⟩

/-- Of three items the second is a zero, over which the hook fails.  Two items are counted and one
of them goes through, whatever comes later.  Without the zero all go through and are counted.  An
item before the subscription is not. -/
theorem threaded_by_scanning :
    let fault : StreamError := .lone (.mk 1 (.message "zero"))
    let layer : Layer Unit Unit ℕ := scanning () fault
    let actual : Subscriber Unit Unit ℕ := (Consumer.asking 0).subscriber
    let S := layer.onto actual
    let start : Option ℕ × Unit := (some 0, ())
    let early : List (Stimulus ℕ) := [.signal (.next 9)]
    let stopped := S.history (feeding early (.direct 0) [4, 0, 7] ++ [.signal .complete]) ()
    let completed := S.history (feeding early (.direct 0) [4, 7] ++ [.signal .complete]) ()
    let refused := S.after [] (.signal (.next 9)) ()
    subscriptions early = [] ∧ (∀ seed ∈ layer.hooks.seed, ∃ state, (seed ()).result = .ok state)
      ∧ layer.hooks.FailsAfter start [4] 0
      ∧ layer.Threaded actual (.direct 0) start [.next 4, .next 0] [4] stopped
      ∧ (layer.sessionOf actual stopped.state).state? = some (2 : ℕ)
      ∧ layer.hooks.Passes start [.next 4, .next 7]
      ∧ layer.Threaded actual (.direct 0) start [.next 4, .next 7, .complete] [4, 7] completed
      ∧ (layer.sessionOf actual completed.state).state? = some (2 : ℕ)
      ∧ refused.state = S.init ∧ signalsAt 1 refused.trace = [] := by
  intro fault layer actual S start early stopped completed refused
  obtain ⟨hfed, hrefused⟩ := threaded_history layer (Consumer.asking 0) ()
  have seeded : ∀ seed ∈ layer.hooks.seed, ∃ state, (seed ()).result = .ok state := by
    rintro seed ⟨⟩
    exact ⟨(0 : ℕ), rfl⟩
  obtain ⟨-, hpasses, hfails⟩ := hfed early (.direct 0) rfl seeded
  have fails : layer.hooks.FailsAfter start [4] 0 :=
    ⟨⟨rfl, trivial⟩, Option.some_ne_none (HookError.ofStream 0 fault)⟩
  have passes : layer.hooks.Passes start [.next 4, .next 7] := ⟨rfl, rfl, trivial⟩
  have first : layer.Threaded actual (.direct 0) start [.next 4, .next 0] [4] stopped :=
    hfails [4] 0 fails [7] [.signal .complete]
  have second : layer.Threaded actual (.direct 0) start [.next 4, .next 7, .complete] [4, 7]
      completed := (hpasses [4, 7] passes).2 .complete rfl []
  obtain ⟨hstate, -, -, -, hquiet⟩ := hrefused [] (.next 9) (Or.inl ⟨rfl, nofun⟩)
  exact ⟨rfl, seeded, fails, first, first.state, passes, second, second.state, hstate, hquiet⟩

end Layer

end SignalPeek
