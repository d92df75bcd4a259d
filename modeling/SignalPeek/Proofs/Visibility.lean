import Mathlib.Tactic.Common
import SignalPeek.Proofs.Grounds
import SignalPeek.Proofs.HookOrder

/-!
# What is seen of a layer, and when

Whoever looks at a layer sees its phase and its parent, and may look at any moment: while a hook
runs, while a call is made, or while the subscriber below takes a signal.  What is seen is no more
than the phases allow, and it never goes back.

**The course of a run.**  A trace takes a standing to a standing (`Course`) if each of its moments
shows one on the way, and none of them goes back behind an earlier one.  A conduct is a course of
one to four steps (`Conduct.course`), all that happens below goes by under the standing that the
layer has settled on, and a run is one course after the other.

**The right moment** (`Timely`).  The seed runs with the parent set and the layer not begun, every
other hook while the layer is active.  The subscriber below is given items while the layer is
active, and errors and completions when it has ended.  The layer cancels its parent over a failure
when it has ended, and has no error for its sink while it is active.  The parent that is seen at all
these moments is the first subscription that was offered.

**Between calls** (`Settled`).  The parent is the first that was offered, the layer has begun
exactly if it has one, and the state is there exactly if a seed has made it.
-/

namespace SignalPeek

variable {ω ν α σ : Type}

/-! ## Standings in order -/

/-- The second standing may come after the first: the phase does not go back, and a parent that is
set stays the same. -/
structure Standing.Precedes (before after : Standing) : Prop where
  phase : before.phase.rank ≤ after.phase.rank
  parent : ∀ parent, before.parent = some parent → after.parent = some parent

namespace Standing.Precedes

lemma refl (standing : Standing) : standing.Precedes standing := ⟨Nat.le_refl _, fun _ => id⟩

lemma trans {before between after : Standing} (first : before.Precedes between)
    (second : between.Precedes after) : before.Precedes after :=
  ⟨Nat.le_trans first.phase second.phase,
    fun parent h => second.parent parent (first.parent parent h)⟩

end Standing.Precedes

/-- The moment shows the first layer in this standing. -/
def Moment.Shows (moment : Moment ν α) (standing : Standing) : Prop :=
  moment.standings.head? = some standing

/-- A trace takes the first layer from a standing to a standing.  Every moment shows one on the way,
and what it shows may come after all that was shown before. -/
structure Course (before after : Standing) (trace : List (Moment ν α)) : Prop where
  onward : before.Precedes after
  shown : ∀ moment ∈ trace, ∃ standing, moment.Shows standing
    ∧ before.Precedes standing ∧ standing.Precedes after
  ordered : trace.Pairwise fun earlier later => ∀ standing standing',
    earlier.Shows standing → later.Shows standing' → standing.Precedes standing'

namespace Course

lemma const {standing : Standing} {trace : List (Moment ν α)}
    (h : ∀ moment ∈ trace, moment.Shows standing) : Course standing standing trace := by
  refine ⟨.refl standing, fun moment hmem => ⟨standing, h moment hmem, .refl _, .refl _⟩, ?_⟩
  refine List.pairwise_of_forall_mem_list fun earlier hearlier later hlater first second hfirst
    hsecond => ?_
  obtain rfl := Option.some.inj ((h earlier hearlier).symm.trans hfirst)
  obtain rfl := Option.some.inj ((h later hlater).symm.trans hsecond)
  exact .refl _

lemma append {before between after : Standing} {first second : List (Moment ν α)}
    (hfirst : Course before between first) (hsecond : Course between after second) :
    Course before after (first ++ second) := by
  refine ⟨hfirst.onward.trans hsecond.onward, ?shown, ?ordered⟩
  case shown =>
    refine List.forall_mem_append.mpr ⟨fun moment h => ?_, fun moment h => ?_⟩
    · obtain ⟨standing, hshows, hbefore, hbetween⟩ := hfirst.shown moment h
      exact ⟨standing, hshows, hbefore, hbetween.trans hsecond.onward⟩
    · obtain ⟨standing, hshows, hbetween, hafter⟩ := hsecond.shown moment h
      exact ⟨standing, hshows, hfirst.onward.trans hbetween, hafter⟩
  case ordered =>
    -- Between the two traces lies the standing in the middle.
    refine List.pairwise_append.mpr ⟨hfirst.ordered, hsecond.ordered, ?_⟩
    intro earlier hearlier later hlater standing standing' hstanding hstanding'
    obtain ⟨given, hgiven, _, hbetween⟩ := hfirst.shown earlier hearlier
    obtain ⟨given', hgiven', hbetween', _⟩ := hsecond.shown later hlater
    obtain rfl := Option.some.inj (hgiven.symm.trans hstanding)
    obtain rfl := Option.some.inj (hgiven'.symm.trans hstanding')
    exact hbetween.trans hbetween'

/-- A standing may change where nothing happens. -/
lemma step {before after : Standing} (onward : before.Precedes after) :
    Course before after ([] : List (Moment ν α)) :=
  ⟨onward, List.forall_mem_nil _, .nil⟩

lemma from_before {before between after : Standing} {trace : List (Moment ν α)}
    (onward : before.Precedes between) (course : Course between after trace) :
    Course before after trace :=
  (step onward).append course

lemma to_after {before between after : Standing} {trace : List (Moment ν α)}
    (course : Course before between trace) (onward : between.Precedes after) :
    Course before after trace := by
  simpa using course.append (step onward)

end Course

/-! ## The course of a call -/

namespace Session

/-- What is visible of a session that goes on. -/
def activeStanding (parent : Subscription) : Standing :=
  { phase := .active, parent := some parent }

/-- A signal that is due finds the session on its way to where it will be. -/
lemma Due.onward {session : Session σ} {signal : Signal α} {parent : Subscription}
    (due : session.Due signal parent) :
    session.standing.Precedes (session.watching parent)
      ∧ (session.watching parent).Precedes (activeStanding parent)
      ∧ (session.watching parent).Precedes (endedStanding parent) := by
  cases due with
  | opening parent =>
      exact ⟨⟨Nat.le_refl 0, fun _ h => nomatch h⟩, ⟨Nat.zero_le 1, fun _ => id⟩,
        ⟨Nat.zero_le 2, fun _ => id⟩⟩
  | ongoing parent state accepted =>
      exact ⟨.refl _, .refl _, ⟨Nat.le_succ 1, fun _ => id⟩⟩

lemma standing_after (signal : Signal α) (parent : Subscription) (state : Option σ) :
    (after signal parent state).standing
      = if signal.isTerminal then endedStanding parent else activeStanding parent := by
  unfold after
  split <;> rfl

end Session

open Session

lemma Layer.shows_moments_under (below : List Standing) (standing : Standing)
    (events : List (Event ν α)) :
    ∀ moment ∈ moments below (under standing events), moment.Shows standing :=
  List.forall_mem_map.mpr (List.forall_mem_map.mpr fun _ _ => rfl)

lemma Layer.moments_append (below : List Standing) (first second : List (Standing × Event ν α)) :
    moments below (first ++ second) = moments below first ++ moments below second :=
  List.map_append

/-- **The course of a turn**, from the arrival of the signal on. -/
lemma Conduct.course {hooks : Hooks ω ν α σ} {config : Config} {session session' : Session σ}
    {signal : Signal α} {events : List (Standing × Event ν α)} {exit : Exit α}
    (conduct : Conduct hooks config session signal events session' exit) (below : List Standing) :
    Course session.standing session'.standing
      (Layer.moments below ((session.standing, .received signal) :: events)) := by
  have during (standing : Standing) (shown : List (Event ν α)) :
      Course standing standing (Layer.moments below (under standing shown)) :=
    .const (Layer.shows_moments_under below standing shown)
  rw [← List.singleton_append, Layer.moments_append]
  refine (during session.standing [.received signal]).append ?_
  cases conduct with
  | refused undue => exact during _ _
  | @passed parent due note there state =>
      obtain ⟨hwatching, hactive, hended⟩ := due.onward
      have hlast : (session.watching parent).Precedes
          (Session.after signal parent state).standing := by
        rw [standing_after]
        split
        · exact hended
        · exact hactive
      exact .from_before hwatching ((during _ _).to_after hlast)
  | replaced due note fails route state =>
      obtain ⟨hwatching, _, hended⟩ := due.onward
      rw [Layer.moments_append]
      exact .from_before hwatching (((during _ _).to_after hended).append (during _ _))
  | escaped due note fails route state =>
      obtain ⟨hwatching, _, hended⟩ := due.onward
      rw [Layer.moments_append]
      exact .from_before hwatching (((during _ _).to_after hended).append (during _ _))

namespace Layer

variable {layer : Layer ω ν α} {actual : Subscriber ω ν α}

/-- Whatever happens below a layer, it is seen in the standing it has settled on. -/
lemma course_beneath (standing : Standing) (trace : List (Moment ν α)) :
    Course standing standing (trace.map (·.beneath standing)) :=
  .const (List.forall_mem_map.mpr fun _ _ => rfl)

lemma course_respond (layer : Layer ω ν α) (actual : Subscriber ω ν α) (stimulus : Stimulus α)
    (state : (layer.onto actual).State) (env : ω) :
    Course (layer.sessionOf actual state).standing
      (layer.sessionOf actual ((layer.onto actual).respond stimulus state env).state).standing
      ((layer.onto actual).respond stimulus state env).trace := by
  obtain ⟨session, below⟩ := state
  cases stimulus with
  | signal signal =>
      have own := (layer.conduct session signal env).course (actual.standings below)
      simp only [Subscriber.respond]
      rw [receive_onto]
      exact own.append (course_beneath _ _)
  | call call =>
      simp only [Subscriber.respond, Subscriber.call?]
      cases (layer.onto actual).handle (session, below) with
      | none => exact .step (.refl _)
      | some held => exact .const (List.forall_mem_map.mpr fun event _ => rfl)

/-- **The course of a run.** -/
lemma course_history (layer : Layer ω ν α) (actual : Subscriber ω ν α)
    (stimuli : List (Stimulus α)) (env : ω) :
    Course { phase := .init, parent := none }
      (layer.sessionOf actual ((layer.onto actual).history stimuli env).state).standing
      ((layer.onto actual).history stimuli env).trace :=
  (layer.onto actual).run_induction
    (motive := fun _ run => Course { phase := .init, parent := none }
      (layer.sessionOf actual run.state).standing run.trace)
    (.step (.refl _))
    (fun _ run stimulus ih => ih.append (layer.course_respond actual stimulus run.state run.env))
    stimuli

end Layer

/-! ## The right moment -/

lemma Moment.layer_of_signalAt? {moment : Moment ν α} {layer : ℕ} {signal : Signal α}
    (h : moment.signalAt? layer = some signal) : moment.layer = layer := by
  by_contra hne
  rw [signalAt?_of_ne hne] at h
  cases h

/-- The phase in which a layer runs a hook. -/
def HookRun.phase (run : HookRun ν α) : Phase :=
  match run.occasion with
  | .seed => .init
  | .next _ | .error _ | .complete => .active

/-- The phase in which a layer passes a signal on, where its seed failed in the same call or did not
fail. -/
def Signal.phase (voided : Bool) : Signal α → Phase
  | .subscribe _ => if voided then .terminated else .active
  | .next _ => .active
  | .error _ | .complete => .terminated

/-- The moment shows the first layer in this phase, with this parent in place. -/
def Moment.ShowsIn (moment : Moment ν α) (phase : Phase) (parent? : Option Subscription) : Prop :=
  ∃ parent, parent? = some parent ∧ moment.Shows { phase, parent := some parent }

/-- **What happens in a call happens at the right moment** for the first layer, whose parent after
the call this is. -/
structure Timely (parent? : Option Subscription) (trace : List (Moment ν α)) : Prop where
  /-- The seed runs when the parent is set and the layer has not begun, and any other hook while the
  layer is active. -/
  hooks : ∀ moment ∈ trace, ∀ run, moment.hookRunAt? 0 = some run →
    moment.ShowsIn run.phase parent?
  /-- The subscriber below is given a subscription and items while the layer is active, and errors
  and completions when it has ended.  A subscription after a failed seed is given at the end too. -/
  signals : ∀ moment ∈ trace, ∀ signal, moment.signalAt? 1 = some signal →
    moment.ShowsIn (signal.phase ((hookRunsAt 0 trace).any HookRun.isVoid)) parent?
  /-- Calls that the layer makes itself in a call in which a hook failed are made when it has ended.
  -/
  withdrawal : (∃ run ∈ hookRunsAt 0 trace, run.failure ≠ none) → ∀ moment ∈ trace,
    moment.layer = 0 → ∀ channel call, moment.event = .called channel call →
      moment.ShowsIn .terminated parent?
  /-- Its sink is given nothing while it is active. -/
  sink : ∀ moment ∈ trace, moment.layer = 0 → ∀ sink error, moment.event = .sunk sink error →
    ∃ standing, moment.Shows standing ∧ standing.phase ≠ .active

/-- Where a turn shows what: a refusal in the standing of the session, a hook in the standing for
hooks, and what follows a failure when the session has ended. -/
inductive Instant (config : Config) (session : Session σ) (signal : Signal α) :
    Standing × Event ν α → Prop where
  | refusing (undue : session.accepts signal = false) {event : Event ν α}
      (refused : event ∈ refusal config session.phase signal) :
      Instant config session signal (session.standing, event)
  | watching {parent : Subscription} (due : session.Due signal parent)
      (failure : Option HookError) (note : ν) :
      Instant config session signal (session.watching parent, .hook (signal.run failure note))
  | noticing {parent : Subscription} (due : session.Due signal parent) (operator : String)
      (notice : Notice) :
      Instant config session signal (endedStanding parent, .notice operator notice)
  | withdrawing {parent : Subscription} (due : session.Due signal parent) (channel : ℕ)
      (call : Call) :
      Instant config session signal (endedStanding parent, .called channel call)

lemma Conduct.instant {hooks : Hooks ω ν α σ} {config : Config} {session session' : Session σ}
    {signal : Signal α} {events : List (Standing × Event ν α)} {exit : Exit α}
    (conduct : Conduct hooks config session signal events session' exit) :
    ∀ shown ∈ events, Instant config session signal shown := by
  cases conduct with
  | refused undue => exact List.forall_mem_map.mpr fun event h => .refusing undue h
  | passed due note there state =>
      exact List.forall_mem_map.mpr (List.forall_mem_map.mpr fun note _ => .watching due none note)
  | replaced due note fails route state =>
      refine List.forall_mem_append.mpr ⟨List.forall_mem_singleton.mpr (.watching due _ note), ?_⟩
      refine List.forall_mem_map.mpr
        (List.forall_mem_cons.mpr ⟨.noticing due _ _, fun event h => ?_⟩)
      obtain ⟨channel, call, rfl⟩ := eq_called_of_mem_withdrawal h
      exact .withdrawing due channel call
  | escaped due note fails route state =>
      exact List.forall_mem_append.mpr ⟨List.forall_mem_singleton.mpr (.watching due _ note),
        List.forall_mem_singleton.mpr (.noticing due _ _)⟩

/-- A hook runs in the phase for it. -/
lemma Session.Due.phase_run {session : Session σ} {signal : Signal α} {parent : Subscription}
    (due : session.Due signal parent) (failure : Option HookError) (note : ν) :
    session.phase = (signal.run failure note).phase := by
  cases due with
  | opening parent => rfl
  | ongoing parent state accepted =>
      cases signal with
      | subscribe _ => simp [Session.accepts] at accepted
      | _ => rfl

namespace Instant

variable {config : Config} {session : Session σ} {signal : Signal α} {shown : Standing × Event ν α}

lemma standing_of_hook (instant : Instant config session signal shown) {run : HookRun ν α}
    (h : shown.2.hookRun? = some run) :
    ∃ parent, session.Due signal parent
      ∧ shown.1 = { phase := run.phase, parent := some parent } := by
  cases instant with
  | refusing undue refused =>
      exact absurd (h.symm.trans (own_of_mem_refusal config _ signal _ refused).2)
        (Option.some_ne_none run)
  | @watching parent due failure note =>
      obtain rfl := Option.some.inj h
      refine ⟨parent, due, ?_⟩
      rw [← due.phase_run failure note]
      rfl
  | noticing due operator notice => exact nomatch h
  | withdrawing due channel call => exact nomatch h

lemma standing_of_called (instant : Instant config session signal shown)
    (accepted : session.accepts signal = true) {channel : ℕ} {call : Call}
    (h : shown.2 = .called channel call) :
    ∃ parent, session.Due signal parent
      ∧ shown.1 = { phase := .terminated, parent := some parent } := by
  cases instant with
  | refusing undue refused => simp [accepted] at undue
  | watching due failure note => exact nomatch h
  | noticing due operator notice => exact nomatch h
  | withdrawing due channel call => exact ⟨_, due, rfl⟩

/-- Only an error is given to a sink, and an active session takes every error. -/
lemma phase_of_sunk (instant : Instant config session signal shown) {sink : String}
    {error : StreamError} (h : shown.2 = .sunk sink error) : shown.1.phase ≠ .active := by
  cases instant with
  | @refusing undue event refused =>
      obtain rfl : event = .sunk sink error := h
      cases signal with
      | error given =>
          intro active
          cases session with
          | active parent state => simp [accepts] at undue
          | _ => simp [standing, phase] at active
      | subscribe offered =>
          rcases List.mem_cons.mp refused with hnotice | hcancel
          · cases hnotice
          · obtain ⟨_, _, hcalled⟩ := eq_called_of_mem hcancel
            cases hcalled
      | _ => cases List.mem_singleton.mp refused
  | watching due failure note => cases h
  | noticing due operator notice => cases h
  | withdrawing due channel call => cases h

end Instant

/-- What a session passes on, it passes on in the phase for it and with its parent in place. -/
lemma Conduct.standing_of_mem_signals {hooks : Hooks ω ν α σ} {config : Config}
    {session session' : Session σ} {signal : Signal α} {events : List (Standing × Event ν α)}
    {exit : Exit α} (conduct : Conduct hooks config session signal events session' exit)
    {given : Signal α} (h : given ∈ exit.signals) :
    ∃ parent, session.Due signal parent ∧ session'.standing
      = { phase := given.phase ((events.filterMap (·.2.hookRun?)).any HookRun.isVoid)
          parent := some parent } := by
  cases conduct with
  | refused undue => exact absurd h List.not_mem_nil
  | @passed parent due note there state =>
      refine ⟨parent, due, ?_⟩
      obtain rfl := List.mem_singleton.mp h
      cases due with
      | opening parent =>
          rw [List.any_eq_false.mpr (by cases note <;> simp [Signal.isVoid_run])]
          rfl
      | ongoing parent before accepted =>
          cases signal with
          | subscribe _ => simp [accepts] at accepted
          | _ => rfl
  | @replaced parent due note failure error fails route state =>
      refine ⟨parent, due, ?_⟩
      cases signal with
      | subscribe offered =>
          rcases List.mem_cons.mp h with rfl | h
          · simp [List.filterMap_cons, Signal.isVoid_run, Signal.kind, Signal.phase]
            rfl
          · obtain rfl := List.mem_singleton.mp h
            rfl
      | _ =>
          obtain rfl := List.mem_singleton.mp h
          rfl
  | escaped due note fails route state => exact absurd h List.not_mem_nil

namespace Layer

variable {layer : Layer ω ν α} {actual : Subscriber ω ν α}

/-- A moment of a call is one of the layer itself, or one of what happens below it. -/
lemma of_mem_receive_onto {signal : Signal α} {session : Session layer.State}
    {below : actual.State} {env : ω} {moment : Moment ν α}
    (h : moment ∈ ((layer.onto actual).receive signal (session, below) env).trace) :
    (∃ shown ∈ (session.standing, .received signal) :: (layer.turn session signal env).events,
        moment = ⟨0, shown.1 :: actual.standings below, shown.2⟩)
      ∨ ∃ lower ∈ (layer.passedOn actual signal session below env).trace,
          moment = lower.beneath (layer.turn session signal env).session.standing := by
  rw [receive_onto] at h
  rcases List.mem_append.mp h with hown | hbelow
  · obtain ⟨shown, hshown, rfl⟩ := List.mem_map.mp hown
    exact Or.inl ⟨shown, hshown, rfl⟩
  · obtain ⟨lower, hlower, rfl⟩ := List.mem_map.mp hbelow
    exact Or.inr ⟨lower, hlower, rfl⟩

lemma timely_receive (hactual : actual.Attentive) (signal : Signal α)
    (state : (layer.onto actual).State) (env : ω) :
    let outcome := (layer.onto actual).receive signal state env
    Timely (layer.sessionOf actual outcome.state).parent? outcome.trace := by
  obtain ⟨session, below⟩ := state
  intro outcome
  rw [layer.sessionOf_receive actual signal (session, below) env]
  have conduct := layer.conduct session signal env
  have hruns := layer.hookRunsAt_zero_receive_onto actual signal session below env
  refine ⟨?hooks, ?signals, ?withdrawal, ?sink⟩
  case hooks =>
    intro moment h run hrun
    rcases of_mem_receive_onto h with ⟨shown, hshown, rfl⟩ | ⟨lower, _, rfl⟩
    · rcases List.mem_cons.mp hshown with rfl | hturn
      · cases hrun
      · obtain ⟨parent, due, hshown⟩ := (conduct.instant shown hturn).standing_of_hook hrun
        exact ⟨parent, conduct.parent?_of_due due, congrArg some hshown⟩
    · cases hrun
  case signals =>
    intro moment h given hgiven
    rcases of_mem_receive_onto h with ⟨shown, _, rfl⟩ | ⟨lower, hlower, rfl⟩
    · cases Moment.layer_of_signalAt? hgiven
    · have hlower' : lower.signalAt? 0 = some given := by
        simpa [Moment.signalAt?, Moment.beneath] using hgiven
      have hmem : given ∈ (layer.turn session signal env).exit.signals :=
        (Subscriber.heard_receiveAll hactual _ below _).initial.subset
          (List.mem_filterMap.mpr ⟨lower, hlower, hlower'⟩)
      rw [hruns]
      obtain ⟨parent, due, hstanding⟩ := conduct.standing_of_mem_signals hmem
      exact ⟨parent, conduct.parent?_of_due due, congrArg some hstanding⟩
  case withdrawal =>
    rintro ⟨run, hrun, _⟩ moment h hlayer channel call hcall
    obtain ⟨⟨_, taken⟩, _⟩ := conduct.of_mem_hookRuns (hruns ▸ hrun)
    rcases of_mem_receive_onto h with ⟨shown, hshown, rfl⟩ | ⟨lower, _, rfl⟩
    · rcases List.mem_cons.mp hshown with rfl | hturn
      · cases hcall
      · obtain ⟨parent, due, hshown⟩ :=
          (conduct.instant shown hturn).standing_of_called taken.accepts hcall
        exact ⟨parent, conduct.parent?_of_due due, congrArg some hshown⟩
    · cases hlayer
  case sink =>
    intro moment h hlayer sink error hsunk
    rcases of_mem_receive_onto h with ⟨shown, hshown, rfl⟩ | ⟨lower, _, rfl⟩
    · rcases List.mem_cons.mp hshown with rfl | hturn
      · cases hsunk
      · exact ⟨shown.1, rfl, (conduct.instant shown hturn).phase_of_sunk hsunk⟩
    · cases hlayer

/-- A call that the consumer makes between signals is no concern of the layer. -/
lemma timely_call (layer : Layer ω ν α) (actual : Subscriber ω ν α) (call : Call)
    (state : (layer.onto actual).State) (env : ω) (parent? : Option Subscription) :
    Timely parent? ((layer.onto actual).respond (.call call) state env).trace := by
  have hcalled : ∀ moment ∈ ((layer.onto actual).respond (.call call) state env).trace,
      ∃ channel call', moment.event = .called channel call' :=
    fun moment h => (layer.onto actual).eq_called_of_mem_respond h
  refine ⟨?hooks, ?signals, ?withdrawal, ?sink⟩
  case hooks =>
    intro moment h run hrun
    obtain ⟨channel, call', hevent⟩ := hcalled moment h
    simp [Moment.hookRunAt?, hevent, Event.hookRun?] at hrun
  case signals =>
    intro moment h given hgiven
    obtain ⟨channel, call', hevent⟩ := hcalled moment h
    simp [Moment.signalAt?, hevent] at hgiven
  case withdrawal =>
    rintro ⟨run, hrun, _⟩
    rw [Subscriber.hookRunsAt_respond_call] at hrun
    exact absurd hrun List.not_mem_nil
  case sink =>
    intro moment h _ sink error hsunk
    obtain ⟨channel, call', hevent⟩ := hcalled moment h
    cases hevent.symm.trans hsunk

end Layer

/-! ## Between calls -/

lemma isSome_state_runHook (occasion : Occasion α) (hook : Option (Option σ → ω → Reply ω ν σ))
    (state : Option σ) (env : ω) :
    (runHook occasion hook state env).state.isSome = state.isSome := by
  cases hook with
  | none => rfl
  | some hook => exact Option.isSome_map

namespace Session

variable (hooks : Hooks ω ν α σ) (config : Config)

/-- The state of a session that has begun neither appears nor vanishes. -/
lemma isSome_state?_turn {session : Session σ} (begun : session.phase ≠ .init) (signal : Signal α)
    (env : ω) :
    (session.turn hooks config signal env).session.state?.isSome = session.state?.isSome := by
  cases session with
  | fresh => exact absurd rfl begun
  | active parent state =>
      cases signal with
      | subscribe offered => rfl
      | next item =>
          have hran := isSome_state_runHook (.next item) (hooks.next.map (· item)) state env
          simp only [turn, onNext]
          split <;> exact hran
      | error error => exact isSome_state_runHook (.error error : Occasion α) _ state env
      | complete => exact isSome_state_runHook (.complete : Occasion α) _ state env
  | terminated parent state => cases signal <;> rfl

/-- The first subscription leaves a state exactly if there is a seed and it does not fail. -/
lemma isSome_state?_begin (parent : Subscription) (env : ω) :
    (begin hooks config parent env).session.state?.isSome
      = (hooks.seed.isSome && !((begin hooks config parent env).events.filterMap
          (·.2.hookRun?)).any HookRun.isVoid) := by
  unfold begin
  cases hooks.seed with
  | none => rfl
  | some seed =>
      cases hresult : (seed env).result with
      | ok state => simp [hresult, Seeding.failure, HookRun.isVoid, state?]
      | error failure =>
          cases hroute : failure.route <;>
            simp [hresult, hroute, Seeding.failure, HookRun.isVoid, Occasion.kind, state?]

end Session

/-- Once a session has begun its seed does not fail any more. -/
lemma Conduct.voidless {hooks : Hooks ω ν α σ} {config : Config} {session session' : Session σ}
    {signal : Signal α} {events : List (Standing × Event ν α)} {exit : Exit α}
    (conduct : Conduct hooks config session signal events session' exit)
    (begun : session.phase ≠ .init) :
    (events.filterMap (·.2.hookRun?)).any HookRun.isVoid = false := by
  refine List.any_eq_false.mpr fun run h => ?_
  obtain ⟨⟨parent, due⟩, hoccasion, _⟩ := conduct.of_mem_hookRuns h
  cases due with
  | opening parent => exact absurd rfl begun
  | ongoing parent state accepted =>
      simp [HookRun.isVoid, hoccasion, kind_ne_of_active accepted]

/-- A session that has begun has a state exactly if there is a seed and it did not fail. -/
def Session.Stocked (hooks : Hooks ω ν α σ) (runs : List (HookRun ν α)) (session : Session σ) :
    Prop :=
  session.phase ≠ .init → session.state?.isSome = (hooks.seed.isSome && !runs.any HookRun.isVoid)

lemma Session.Stocked.turn {hooks : Hooks ω ν α σ} {session : Session σ}
    {runs : List (HookRun ν α)} (stocked : session.Stocked hooks runs) (config : Config)
    {watched : Bool} (ran : session.Ran watched runs) (signal : Signal α) (env : ω) :
    (session.turn hooks config signal env).session.Stocked hooks
      (runs ++ (session.turn hooks config signal env).events.filterMap (·.2.hookRun?)) := by
  have conduct := conduct_turn hooks config session signal env
  intro begun
  rw [List.any_append]
  cases hphase : session.phase with
  | init =>
      cases session with
      | fresh =>
          obtain rfl : runs = [] := ran
          cases signal with
          | subscribe parent => exact isSome_state?_begin hooks config parent env
          | _ => exact absurd rfl begun
      | _ => exact nomatch hphase
  | _ =>
      have begun' : session.phase ≠ .init := by simp [hphase]
      rw [conduct.voidless begun', Bool.or_false, isSome_state?_turn hooks config begun']
      exact stocked begun'

namespace Layer

variable (layer : Layer ω ν α) (actual : Subscriber ω ν α)

lemma stocked_history (stimuli : List (Stimulus α)) (env : ω) :
    (layer.sessionOf actual ((layer.onto actual).history stimuli env).state).Stocked layer.hooks
      (hookRunsAt 0 ((layer.onto actual).history stimuli env).trace) := by
  -- That a seed has run before any other hook is needed on the way.
  have both := layer.session_induction actual
    (motive := fun session runs => session.Ran (layer.hooks.watches .subscribe) runs
      ∧ session.Stocked layer.hooks runs)
    ⟨rfl, fun begun => absurd rfl begun⟩ ?turn stimuli env
  case turn =>
    rintro session runs signal env ⟨ran, stocked⟩
    exact ⟨(layer.conduct session signal env).ran ran, stocked.turn layer.config ran signal env⟩
  exact both.2

end Layer

/-- **A layer between calls**, after these stimuli and these runs of its hooks. -/
structure Settled (hooks : Hooks ω ν α σ) (stimuli : List (Stimulus α)) (runs : List (HookRun ν α))
    (session : Session σ) : Prop where
  /-- The parent is the first subscription that was offered, whatever came later. -/
  parent : session.parent? = (subscriptions stimuli).head?
  begun : session.phase = .init ↔ session.parent? = none
  /-- While the layer is active, there is a state if there is a seed. -/
  seeded : session.phase = .active → (session.state?.isSome = true ↔ hooks.seed.isSome = true)
  /-- Where the seed failed there is no state. -/
  void : runs.any HookRun.isVoid = true → session.state? = none

lemma Session.Ran.settled {hooks : Hooks ω ν α σ} {stimuli : List (Stimulus α)}
    {runs : List (HookRun ν α)} {session : Session σ} {watched : Bool}
    (ran : session.Ran watched runs) (stocked : session.Stocked hooks runs)
    (parent : session.parent? = (subscriptions stimuli).head?) :
    Settled hooks stimuli runs session := by
  refine ⟨parent, ?begun, ?seeded, ?void⟩
  case begun => cases session <;> simp [phase, parent?]
  case seeded =>
    intro active
    have calm : runs.any HookRun.isVoid = false := by
      cases session with
      | active parent state =>
          refine List.any_eq_false.mpr fun run h => ?_
          simp [HookRun.isVoid, Underway.calm ran run h]
      | _ => cases active
    have hstate := stocked (by simp [active])
    rw [calm, Bool.not_false, Bool.and_true] at hstate
    rw [hstate]
  case void =>
    intro hvoid
    have begun : session.phase ≠ .init := by
      rintro hinit
      cases session with
      | fresh =>
          obtain rfl : runs = [] := ran
          simp at hvoid
      | _ => cases hinit
    have hstate := stocked begun
    rw [hvoid, Bool.not_true, Bool.and_false] at hstate
    exact Option.isNone_iff_eq_none.mp (Option.isSome_eq_false_iff.mp hstate)

namespace Layer

/-- **All is seen at its time.**  In any run of a layer, over any layers and any consumer, the phase
that is visible never goes back, and the parent that is visible is the first subscription that was
offered once it is set.  Hooks run and signals are passed on in the phase for them and with the
parent set, and between calls the parent and the state are in place. -/
theorem timely_history (layer : Layer ω ν α) (layers : List (Layer ω ν α)) (C : Consumer α)
    (env : ω) :
    let actual := stack layers C.subscriber
    let S := layer.onto actual
    (∀ stimuli,
      let run := S.history stimuli env
      let session := layer.sessionOf actual run.state
      Course { phase := .init, parent := none }
          { phase := session.phase, parent := (subscriptions stimuli).head? } run.trace
        ∧ Settled layer.hooks stimuli (hookRunsAt 0 run.trace) session)
    ∧ ∀ past stimulus,
        Timely (subscriptions (past ++ [stimulus])).head? (S.after past stimulus env).trace := by
  intro actual S
  refine ⟨?run, ?call⟩
  case run =>
    intro stimuli run session
    have hparent := layer.parent?_history actual stimuli env
    have settled := (layer.ran_history actual stimuli env).settled
      (layer.stocked_history actual stimuli env) hparent
    refine ⟨?_, settled⟩
    rw [← hparent]
    exact layer.course_history actual stimuli env
  case call =>
    intro past stimulus
    have hparent := layer.parent?_history actual (past ++ [stimulus]) env
    rw [Subscriber.history_concat] at hparent
    rw [← hparent]
    cases stimulus with
    | signal signal => exact timely_receive (attentive_stack C.attentive layers) signal _ _
    | call call => exact layer.timely_call actual call _ _ _

/-- A layer that counts items is seen before it begins, while it goes on and after its end, each
phase in its time.  Its parent is there from the seed on. -/
theorem timely_counting :
    let fatal : Fatal := .mk (.mk 0 (.message "stop"))
    let actual : Subscriber Unit Unit ℕ := stack [] (Consumer.asking 0).subscriber
    let S := (counting () fatal).onto actual
    let past : List (Stimulus ℕ) := [.signal (.subscribe (.direct 0)), .signal (.next 1)]
    let run := S.history (past ++ [.signal .complete]) ()
    let session := (counting () fatal).sessionOf actual run.state
    let parent : Option Subscription := some (.direct 0)
    run.trace.map Moment.standings
        = [[⟨.init, none⟩], [⟨.init, parent⟩], [⟨.active, parent⟩], [⟨.active, parent⟩],
          [⟨.active, parent⟩], [⟨.active, parent⟩], [⟨.active, parent⟩], [⟨.active, parent⟩],
          [⟨.terminated, parent⟩]]
      ∧ Course { phase := .init, parent := none } { phase := session.phase, parent } run.trace
      ∧ Settled (counting () fatal).hooks (past ++ [.signal .complete]) (hookRunsAt 0 run.trace)
          session
      ∧ Timely parent (S.after past (.signal .complete) ()).trace := by
  intro fatal actual S past run session parent
  have timely := timely_history (counting () fatal) [] (Consumer.asking 0 : Consumer ℕ) ()
  obtain ⟨course, settled⟩ := timely.1 (past ++ [.signal .complete])
  exact ⟨rfl, course, settled, timely.2 past (.signal .complete)⟩

end Layer

end SignalPeek
