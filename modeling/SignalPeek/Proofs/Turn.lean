import Mathlib.Tactic.Common
import SignalPeek.Layer.Session
import SignalPeek.Proofs.Observation

/-!
# What a turn can do

A turn has many branches, and most properties of a subscriber do not care which hook failed or what
was noticed.  They care about the session before and after, and about the exit.

**Passages.**  `Passage` lists what a turn can amount to: six kinds, each with its condition.  That
a turn is always one of them is said once (`passage_turn`), and everything about the life of a
session is derived from it by cases.

**Events.**  The events of a turn are the layer's own: hooks, notices, errors for the sink and
calls to the parent (`own_of_mem_turn`).  Hooks run in turns that accept the signal only
(`hookRun?_of_mem_refused`).
-/

namespace SignalPeek

variable {ω ν α σ : Type}

def Exit.signals : Exit α → List (Signal α)
  | .forward signals => signals
  | .escape _ => []

def Exit.fatal? : Exit α → Option Fatal
  | .forward _ => none
  | .escape fatal => some fatal

/-- Whether a signal is due: a subscription at first, and any other signal while active. -/
def Session.accepts : Session σ → Signal α → Bool
  | .fresh, .subscribe _ => true
  | .active _ _, .next _ | .active _ _, .error _ | .active _ _, .complete => true
  | _, _ => false

/-- What a turn can amount to, by the session before, the signal, the session after and the exit. -/
inductive Passage : Session σ → Signal α → Session σ → Exit α → Prop where
  /-- A signal that is not due changes nothing and goes nowhere. -/
  | refused {session : Session σ} {signal : Signal α} (undue : session.accepts signal = false) :
      Passage session signal session (.forward [])
  /-- A hook failed for good. -/
  | escaped {session : Session σ} {signal : Signal α} (due : session.accepts signal = true)
      (parent : Subscription) (state : Option σ) (fatal : Fatal) :
      Passage session signal (.terminated parent state) (.escape fatal)
  /-- The subscription begins. -/
  | seeded (parent : Subscription) (state : Option σ) :
      Passage .fresh (.subscribe parent) (.active parent state)
        (.forward [.subscribe (.relay parent)])
  /-- The subscription ends before it began. -/
  | unseeded (parent : Subscription) (error : StreamError) :
      Passage .fresh (.subscribe parent) (.terminated parent none)
        (.forward [.subscribe .inert, .error error])
  /-- An item goes on. -/
  | item (parent : Subscription) (state state' : Option σ) (item : α) :
      Passage (.active parent state) (.next item) (.active parent state') (.forward [.next item])
  /-- The stream ends, because it was told to or because a hook failed. -/
  | ended (parent : Subscription) (state state' : Option σ) {signal last : Signal α}
      (due : (Session.active parent state).accepts signal = true)
      (terminal : last.isTerminal = true) :
      Passage (.active parent state) signal (.terminated parent state') (.forward [last])

namespace Session

variable (hooks : Hooks ω ν α σ) (config : Config)

lemma turn_of_not_accepts {session : Session σ} {signal : Signal α}
    (undue : session.accepts signal = false) (env : ω) :
    session.turn hooks config signal env = refuse config session signal env := by
  cases session <;> cases signal <;> first | rfl | simp [accepts] at undue

lemma passage_begin (parent : Subscription) (env : ω) :
    Passage .fresh (.subscribe parent) (begin hooks config parent env).session
      (begin hooks config parent env).exit := by
  unfold begin
  cases hseed : hooks.seed with
  | none => exact .seeded parent none
  | some seed =>
      cases hresult : (seed env).result with
      | ok state =>
          simp only [hresult]
          exact .seeded parent (some state)
      | error failure =>
          cases hroute : failure.route with
          | ok error =>
              simp only [hresult, hroute]
              exact .unseeded parent error
          | error fatal =>
              simp only [hresult, hroute]
              exact .escaped rfl parent none fatal

lemma passage_onNext (parent : Subscription) (state : Option σ) (item : α) (env : ω) :
    Passage (.active parent state) (.next item)
      (onNext hooks config parent state item env).session
      (onNext hooks config parent state item env).exit := by
  unfold onNext
  cases hverdict : (runHook (.next item) (hooks.next.map (· item)) state env).verdict with
  | pass =>
      simp only [hverdict]
      exact .item parent state _ item
  | replace error =>
      simp only [hverdict]
      exact .ended parent state _ rfl rfl
  | escape fatal =>
      simp only [hverdict]
      exact .escaped rfl parent _ fatal

/-- Where a signal ends the stream in any case, the verdict only says how: with the signal that
takes its place, with an error made of the failure, or not at all. -/
lemma passage_close (parent : Subscription) (state state' : Option σ) {signal last : Signal α}
    (due : (active parent state).accepts signal = true) (terminal : last.isTerminal = true)
    (named : StreamError → StreamError) (verdict : Verdict) :
    Passage (.active parent state) signal (.terminated parent state')
      (match verdict with
        | .pass => .forward [last]
        | .replace failure => .forward [.error (named failure)]
        | .escape fatal => .escape fatal) := by
  cases verdict with
  | pass => exact .ended parent state state' due terminal
  | replace failure => exact .ended parent state state' due rfl
  | escape fatal => exact .escaped due parent state' fatal

/-- **Every turn is a passage.** -/
theorem passage_turn (session : Session σ) (signal : Signal α) (env : ω) :
    Passage session signal (session.turn hooks config signal env).session
      (session.turn hooks config signal env).exit := by
  cases hdue : session.accepts signal with
  | false =>
      rw [turn_of_not_accepts hooks config hdue env]
      exact .refused hdue
  | true =>
      cases session with
      | fresh =>
          cases signal with
          | subscribe parent => exact passage_begin hooks config parent env
          | _ => simp [accepts] at hdue
      | active parent state =>
          cases signal with
          | subscribe _ => simp [accepts] at hdue
          | next item => exact passage_onNext hooks config parent state item env
          | error error => exact passage_close parent state _ rfl rfl (·.withSuppressed error) _
          | complete => exact passage_close parent state _ rfl rfl id _
      | terminated parent state => cases signal <;> simp [accepts] at hdue

end Session

/-! ## The events of a turn -/

lemma own_of_mem_runHook (occasion : Occasion α) (hook : Option (Option σ → ω → Reply ω ν σ))
    (state : Option σ) (env : ω) :
    ∀ event ∈ (runHook occasion hook state env).events, event.own = true := by
  intro event h
  cases hook with
  | none => simp [runHook] at h
  | some hook =>
      simp only [runHook, List.mem_singleton] at h
      rw [h]
      rfl

namespace Session

variable (hooks : Hooks ω ν α σ) (config : Config)

lemma own_under {standing : Standing} {events : List (Event ν α)} :
    (∀ shown ∈ under standing events, shown.2.own = true)
      ↔ ∀ event ∈ events, event.own = true := by
  simp [under]

lemma own_of_mem_refusal (phase : Phase) (signal : Signal α) :
    ∀ event ∈ (refusal config phase signal : List (Event ν α)),
      event.own = true ∧ event.hookRun? = none := by
  intro event h
  cases signal with
  | subscribe subscription =>
      rcases List.mem_cons.mp h with rfl | h
      · exact ⟨rfl, rfl⟩
      · obtain ⟨channel, call, rfl⟩ := eq_called_of_mem h
        exact ⟨rfl, rfl⟩
  | error error =>
      rcases List.mem_cons.mp h with rfl | h
      · exact ⟨rfl, rfl⟩
      · unfold Config.sink at h
        split at h
        · rw [List.mem_singleton.mp h]
          exact ⟨rfl, rfl⟩
        · simp at h
  | _ =>
      rw [List.mem_singleton.mp h]
      exact ⟨rfl, rfl⟩

lemma hookRun?_of_mem_refused {session : Session σ} {signal : Signal α}
    (undue : session.accepts signal = false) (env : ω) :
    ∀ shown ∈ (session.turn hooks config signal env).events, shown.2.hookRun? = none := by
  rw [turn_of_not_accepts hooks config undue env]
  intro shown h
  obtain ⟨event, hevent, rfl⟩ := List.mem_map.mp h
  exact (own_of_mem_refusal config session.phase signal event hevent).2

lemma own_of_mem_begin (parent : Subscription) (env : ω) :
    ∀ shown ∈ (begin hooks config parent env).events, shown.2.own = true := by
  unfold begin
  cases hseed : hooks.seed with
  | none => simp
  | some seed =>
      cases hresult : (seed env).result with
      | ok state => simp [hresult, under, Event.own]
      | error failure =>
          cases hroute : failure.route with
          | ok error => simp [hresult, hroute, under, Event.own]
          | error fatal => simp [hresult, hroute, under, Event.own]

lemma own_of_mem_onNext (parent : Subscription) (state : Option σ) (item : α) (env : ω) :
    ∀ shown ∈ (onNext hooks config parent state item env).events, shown.2.own = true := by
  have hran := own_of_mem_runHook (.next item) (hooks.next.map (· item)) state env
  unfold onNext
  cases hverdict : (runHook (.next item) (hooks.next.map (· item)) state env).verdict with
  | pass =>
      simp only [hverdict]
      exact own_under.mpr hran
  | replace error =>
      simp only [hverdict, List.forall_mem_append]
      refine ⟨own_under.mpr hran, own_under.mpr (List.forall_mem_cons.mpr ⟨rfl, ?_⟩)⟩
      intro event h
      obtain ⟨channel, call, rfl⟩ := eq_called_of_mem h
      rfl
  | escape fatal =>
      simp only [hverdict, List.forall_mem_append]
      exact ⟨own_under.mpr hran, own_under.mpr (List.forall_mem_singleton.mpr rfl)⟩

/-- Where a signal ends the stream in any case, a hook runs and at most one notice follows. -/
lemma own_of_mem_close {going ended : Standing} {events : List (Event ν α)}
    (hran : ∀ event ∈ events, event.own = true) (name : String) (verdict : Verdict)
    (replaced : StreamError → Notice) (escaping : Fatal → Notice) :
    ∀ shown ∈ under going events ++ under ended
        (match verdict with
          | .pass => []
          | .replace failure => [.notice name (replaced failure)]
          | .escape fatal => [.notice name (escaping fatal)]),
      shown.2.own = true := by
  rw [List.forall_mem_append]
  refine ⟨own_under.mpr hran, own_under.mpr ?_⟩
  cases verdict <;> simp [Event.own]

/-- **All events of a turn are own events.** -/
theorem own_of_mem_turn (session : Session σ) (signal : Signal α) (env : ω) :
    ∀ shown ∈ (session.turn hooks config signal env).events, shown.2.own = true := by
  cases hdue : session.accepts signal with
  | false =>
      rw [turn_of_not_accepts hooks config hdue env]
      exact own_under.mpr fun event h =>
        (own_of_mem_refusal config session.phase signal event h).1
  | true =>
      cases session with
      | fresh =>
          cases signal with
          | subscribe parent => exact own_of_mem_begin hooks config parent env
          | _ => simp [accepts] at hdue
      | active parent state =>
          cases signal with
          | subscribe _ => simp [accepts] at hdue
          | next item => exact own_of_mem_onNext hooks config parent state item env
          | error error => exact own_of_mem_close (own_of_mem_runHook _ _ _ _) config.name _ _ _
          | complete => exact own_of_mem_close (own_of_mem_runHook _ _ _ _) config.name _ _ _
      | terminated parent state => cases signal <;> simp [accepts] at hdue

end Session

end SignalPeek
