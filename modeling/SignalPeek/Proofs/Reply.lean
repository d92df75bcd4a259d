import Mathlib.Tactic.Common
import SignalPeek.Proofs.Conduct

/-!
# What a hook leaves behind

A conduct says which hook ran and what came of it, whatever the hook did to the state.  This file
adds the state, and what the hooks share.

**Replies.**  `Hooks.reply?` asks the hook for a signal in a given state.  The four hooks have
different arguments and their replies have one form, so the rest of this file, and of the files on
top of it, needs no case for each of them.

**Heeding.**  A turn over a signal that is due heeds the reply (`heeds_turn`): it shows the run with
the failure and the note of the reply, it leaves what the reply leaves to the other hooks, and its
session has the state with the effect of the reply on it, also where the hook failed.  Only a seed
that succeeds is different, since it makes a state where none was.
-/

namespace SignalPeek

variable {ω ν α σ : Type}

/-! ## Replies -/

/-- What the hook for a signal replies, if there is one.  A seed is asked like the others; there is
no state yet that it could change. -/
def Hooks.reply? (hooks : Hooks ω ν α σ) (signal : Signal α) (state : Option σ) (env : ω) :
    Option (Reply ω ν σ) :=
  match signal with
  | .subscribe _ => hooks.seed.map fun seed =>
    { effect := id, failure := (seed env).failure, note := (seed env).note, env := (seed env).env }
  | .next item => hooks.next.map fun hook => hook item state env
  | .error error => hooks.error.map fun hook => hook error state env
  | .complete => hooks.complete.map fun hook => hook state env

/-- How the hook for a signal fails, if it is there and fails. -/
def Hooks.failure? (hooks : Hooks ω ν α σ) (signal : Signal α) (state : Option σ) (env : ω) :
    Option HookError :=
  (hooks.reply? signal state env).bind (·.failure)

/-- The state after the hook for a signal has run on it, whether or not it failed. -/
def Hooks.stateAfter (hooks : Hooks ω ν α σ) (signal : Signal α) (state : Option σ) (env : ω) :
    Option σ :=
  state.map ((hooks.reply? signal state env).elim id (·.effect))

/-- What the hooks share after the hook for a signal has run. -/
def Hooks.envAfter (hooks : Hooks ω ν α σ) (signal : Signal α) (state : Option σ) (env : ω) : ω :=
  (hooks.reply? signal state env).elim env (·.env)

/-- A hook that may be absent, in terms of its reply. -/
lemma runHook_eq (occasion : Occasion α) (hook : Option (Option σ → ω → Reply ω ν σ))
    (state : Option σ) (env : ω) :
    let reply? := hook.map fun body => body state env
    runHook occasion hook state env =
      { state := state.map (reply?.elim id (·.effect))
        env := reply?.elim env (·.env)
        events := reply?.toList.map fun reply =>
          .hook { occasion, failure := reply.failure, note := reply.note }
        verdict := .of (reply?.bind (·.failure)) } := by
  cases hook with
  | none => simp [runHook, Verdict.of]
  | some body => rfl

/-! ## Turns -/

/-- **A turn heeds the reply** of the hook for its signal. -/
structure Turn.Heeds (turn : Turn ω ν α σ) (hooks : Hooks ω ν α σ) (signal : Signal α)
    (before : Option σ) (env : ω) : Prop where
  /-- The hook runs if there is one, and shows how it failed and what it noted. -/
  runs : turn.events.filterMap (·.2.hookRun?) = (hooks.reply? signal before env).toList.map
    fun reply => signal.run reply.failure reply.note
  shared : turn.env = hooks.envAfter signal before env
  /-- The effect stays, also where the hook failed. -/
  state : signal.kind ≠ .subscribe ∨ hooks.failure? signal before env ≠ none →
    turn.session.state? = hooks.stateAfter signal before env

/-- A turn that shows and leaves what the hook does heeds the reply. -/
lemma Turn.Heeds.of_ran {turn : Turn ω ν α σ} {hooks : Hooks ω ν α σ} {signal : Signal α}
    {before : Option σ} {env : ω} {hook : Option (Option σ → ω → Reply ω ν σ)}
    (asked : hook.map (fun body => body before env) = hooks.reply? signal before env)
    {ran : Ran ω ν α σ} (hran : runHook signal.occasion hook before env = ran)
    (runs : turn.events.filterMap (·.2.hookRun?) = ran.events.filterMap Event.hookRun?)
    (shared : turn.env = ran.env) (state : turn.session.state? = ran.state) :
    turn.Heeds hooks signal before env := by
  rw [runHook_eq, asked] at hran
  subst hran
  refine ⟨?_, shared, fun _ => state⟩
  rw [runs, List.filterMap_map]
  exact congrFun List.filterMap_eq_map _

namespace Session

variable (hooks : Hooks ω ν α σ) (config : Config)

lemma heeds_begin (parent : Subscription) (env : ω) :
    (begin hooks config parent env).Heeds hooks (.subscribe parent) none env := by
  have asked : hooks.reply? (.subscribe parent : Signal α) none env
      = hooks.seed.map fun seed => ⟨id, (seed env).failure, (seed env).note, (seed env).env⟩ := rfl
  unfold begin
  cases hseed : hooks.seed with
  | none =>
      rw [hseed] at asked
      exact ⟨by simp [asked], by simp [Hooks.envAfter, asked], fun _ => rfl⟩
  | some seed =>
      rw [hseed] at asked
      have shared : (seed env).env = hooks.envAfter (.subscribe parent) none env := by
        simp [Hooks.envAfter, asked]
      have runs : (hooks.reply? (.subscribe parent) none env).toList.map
            (fun reply => (Signal.subscribe parent : Signal α).run reply.failure reply.note)
          = [{ occasion := .seed, failure := (seed env).failure, note := (seed env).note }] := by
        simp [asked, Signal.run, Signal.occasion]
      cases hresult : (seed env).result with
      | ok state =>
          simp only [hresult]
          refine ⟨runs.symm, shared, ?_⟩
          simp [Signal.kind, Hooks.failure?, asked, Seeding.failure, hresult]
      | error failure =>
          cases hroute : failure.route <;>
          · simp only [hresult, hroute]
            exact ⟨runs.symm, shared, fun _ => rfl⟩

lemma heeds_onNext (parent : Subscription) (state : Option σ) (item : α) (env : ω) :
    (onNext hooks config parent state item env).Heeds hooks (.next item) state env := by
  have asked : (hooks.next.map (· item)).map (fun body => body state env)
      = hooks.reply? (.next item) state env := Option.map_map _ _ _
  have cancelled := filterMap_hookRun?_withdrawal (ν := ν) (.next item) parent
  unfold onNext
  generalize hran : runHook (.next item) (hooks.next.map (· item)) state env = ran
  obtain ⟨state', env', events, verdict⟩ := ran
  cases verdict with
  | pass => exact .of_ran asked hran (by simp) rfl rfl
  | replace error =>
      refine .of_ran asked hran ?_ rfl rfl
      simp only [List.filterMap_append, filterMap_under, List.filterMap_cons]
      exact (congrArg (_ ++ ·) cancelled).trans (List.append_nil _)
  | escape fatal => exact .of_ran asked hran (by simp [List.filterMap_cons]) rfl rfl

lemma heeds_onError (parent : Subscription) (state : Option σ) (error : StreamError) (env : ω) :
    (onError hooks config parent state error env : Turn ω ν α σ).Heeds hooks (.error error) state
      env := by
  have asked : (hooks.error.map (· error)).map (fun body => body state env)
      = hooks.reply? (.error error : Signal α) state env := Option.map_map _ _ _
  unfold onError
  generalize hran : runHook (.error error) (hooks.error.map (· error)) state env = ran
  obtain ⟨state', env', events, verdict⟩ := ran
  refine .of_ran asked hran ?_ rfl rfl
  cases verdict <;> simp [List.filterMap_cons]

lemma heeds_onComplete (parent : Subscription) (state : Option σ) (env : ω) :
    (onComplete hooks config parent state env : Turn ω ν α σ).Heeds hooks .complete state env := by
  have asked : hooks.complete.map (fun body => body state env)
      = hooks.reply? (.complete : Signal α) state env := rfl
  unfold onComplete
  generalize hran : runHook .complete hooks.complete state env = ran
  obtain ⟨state', env', events, verdict⟩ := ran
  refine .of_ran asked hran ?_ rfl rfl
  cases verdict <;> simp [List.filterMap_cons]

/-- **Every turn over a signal that is due heeds the reply.** -/
theorem heeds_turn {session : Session σ} {signal : Signal α}
    (due : session.accepts signal = true) (env : ω) :
    (session.turn hooks config signal env).Heeds hooks signal session.state? env := by
  cases session with
  | fresh =>
      cases signal with
      | subscribe parent => exact heeds_begin hooks config parent env
      | _ => simp [accepts] at due
  | active parent state =>
      cases signal with
      | subscribe _ => simp [accepts] at due
      | next item => exact heeds_onNext hooks config parent state item env
      | error error => exact heeds_onError hooks config parent state error env
      | complete => exact heeds_onComplete hooks config parent state env
  | terminated parent state => cases signal <;> simp [accepts] at due

end Session

/-! ## With and without a failure -/

/-- A hook run of a turn that heeds a reply failed as the reply says. -/
lemma Turn.Heeds.failure_eq {turn : Turn ω ν α σ} {hooks : Hooks ω ν α σ} {signal : Signal α}
    {before : Option σ} {env : ω} (heeds : turn.Heeds hooks signal before env) :
    ∀ run ∈ turn.events.filterMap (·.2.hookRun?),
      run.failure = hooks.failure? signal before env := by
  rw [heeds.runs, Hooks.failure?]
  cases hooks.reply? signal before env <;> simp [Signal.run]

/-- A reply with a failure comes of a hook that ran. -/
lemma Turn.Heeds.exists_run {turn : Turn ω ν α σ} {hooks : Hooks ω ν α σ} {signal : Signal α}
    {before : Option σ} {env : ω} (heeds : turn.Heeds hooks signal before env)
    {failure : HookError} (failed : hooks.failure? signal before env = some failure) :
    ∃ run ∈ turn.events.filterMap (·.2.hookRun?), run.failure = some failure := by
  obtain ⟨reply, hreply, hfailure⟩ := Option.bind_eq_some_iff.mp failed
  rw [heeds.runs, hreply]
  exact ⟨_, List.mem_singleton_self _, hfailure⟩

namespace Session

variable (hooks : Hooks ω ν α σ) (config : Config)

lemma state?_after (signal : Signal α) (parent : Subscription) (state : Option σ) :
    (after signal parent state).state? = state := by
  unfold after
  split <;> rfl

/-- **Without a failure** a signal goes on, and the state has the effect of the hook. -/
theorem turn_of_calm {session : Session σ} {signal : Signal α} {parent : Subscription}
    (due : session.Due signal parent) (ongoing : signal.kind ≠ .subscribe) {env : ω}
    (calm : hooks.failure? signal session.state? env = none) :
    (session.turn hooks config signal env).exit = .forward [signal.relayed]
      ∧ (session.turn hooks config signal env).session
        = after signal parent (hooks.stateAfter signal session.state? env) := by
  have heeds := heeds_turn hooks config due.accepts env
  obtain ⟨hexit, _, state, _, _, hsession⟩ :=
    (conduct_turn hooks config session signal env).of_calm due
      fun run h => (heeds.failure_eq run h).trans calm
  refine ⟨hexit, ?_⟩
  have hstate := heeds.state (Or.inl ongoing)
  rw [hsession, state?_after] at hstate
  rw [hsession, hstate]

/-- **With a failure** the session ends, and the state has the effect of the hook all the same.  A
fatal error escapes, or what takes the place of the signal goes on. -/
theorem turn_of_failure {session : Session σ} {signal : Signal α} {parent : Subscription}
    (due : session.Due signal parent) {env : ω} {failure : HookError}
    (failed : hooks.failure? signal session.state? env = some failure) :
    ((∃ fatal, failure.route = .error fatal
          ∧ (session.turn hooks config signal env).exit = .escape fatal)
        ∨ ∃ error, failure.route = .ok error
          ∧ (session.turn hooks config signal env).exit = .forward (signal.substitutes error))
      ∧ (session.turn hooks config signal env).session
        = .terminated parent (hooks.stateAfter signal session.state? env) := by
  have heeds := heeds_turn hooks config due.accepts env
  obtain ⟨run, hrun, hfailure⟩ := heeds.exists_run failed
  obtain ⟨parent', state, due', hsession, hexit⟩ :=
    (conduct_turn hooks config session signal env).of_failure hrun hfailure
  obtain rfl : parent' = parent := Option.some.inj (due'.parent_eq.symm.trans due.parent_eq)
  constructor
  · rcases hexit with escape | ⟨error, route, hforward, -⟩
    · exact Or.inl escape
    · exact Or.inr ⟨error, route, hforward⟩
  · have hstate := heeds.state (Or.inr (by simp [failed]))
    rw [hsession] at hstate ⊢
    rw [← hstate]
    rfl

end Session

end SignalPeek
