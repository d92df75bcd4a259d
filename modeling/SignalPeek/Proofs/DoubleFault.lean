import Mathlib.Tactic.Common
import SignalPeek.Proofs.Concert
import SignalPeek.Proofs.Conduct
import SignalPeek.Proofs.Replacement

/-!
# Double faults

An error goes down through a stack of active layers, and hooks may fail over it on the way.  Each
failure takes the place of the error that its layer was given and keeps that one as a companion.

**What arrives.**  The consumer hears of one error: the one that was sent, replaced by the faults of
the call in turn (`delivers_stack`).

**What is lost.**  So it depends on the faults alone whether a cause is still there when the error
arrives, and the criterion for replacements applies (`mem_idents_iff_kept`).  Nothing is lost as
long as no fault has the head of the error before it.  A hook that gives back the cause it was shown
has it, and drops whatever was behind that cause unless a later fault brings it back.
-/

namespace SignalPeek

variable {ω ν α σ : Type}

/-- What is passed on of an error that is due is the error, replaced by the fault of the hook if
there was one. -/
lemma Conduct.signals_of_error {hooks : Hooks ω ν α σ} {config : Config}
    {session session' : Session σ} {e : StreamError} {events : List (Standing × Event ν α)}
    {exit : Exit α} (conduct : Conduct hooks config session (.error e) events session' exit)
    (due : session.accepts (.error e : Signal α) = true) {signals : List (Signal α)}
    (h : exit = .forward signals) :
    signals = [.error (e.replaced (events.filterMap (·.2.fault?)))] := by
  cases conduct with
  | refused undue => simp [due] at undue
  | passed _ note there state =>
      rw [← Exit.forward.inj h, Session.filterMap_under]
      cases note <;> rfl
  | @replaced parent _ note failure error fails route state =>
      rw [← Exit.forward.inj h, List.filterMap_append, Session.filterMap_under,
        Session.filterMap_under]
      simp [List.filterMap_cons, Signal.run, Signal.substitutes, Signal.withdrawal, Event.fault?,
        route, Except.toOption, StreamError.replaced]
  | escaped _ note fails route state => cases h

/-- An error that finds all layers active, and from which nothing escapes, arrives at some depth as
the error that the faults of the call made of it. -/
def Subscriber.Delivers (S : Subscriber ω ν α) (depth : ℕ) : Prop :=
  ∀ e state env, (∀ phase ∈ S.phases state, phase = .active) →
    (S.receive (.error e) state env).escaped = none →
    signalsAt depth (S.receive (.error e) state env).trace
      = [.error (e.replaced (faults (S.receive (.error e) state env).trace))]

lemma Consumer.faults_receive (C : Consumer α) (signal : Signal α)
    (state : (C.subscriber : Subscriber ω ν α).State) (env : ω) :
    faults (C.subscriber.receive signal state env).trace = [] := by
  obtain ⟨held, own⟩ := state
  rw [C.receive_eq, faults, List.filterMap_eq_nil_iff]
  intro moment h
  obtain ⟨event, hevent, rfl⟩ := List.mem_map.mp h
  rcases List.mem_cons.mp hevent with rfl | hevent
  · rfl
  · rcases Reaction.of_mem_events hevent with ⟨channel, call, rfl⟩ | ⟨fatal, rfl⟩ <;> rfl

lemma Consumer.delivers (C : Consumer α) : (C.subscriber : Subscriber ω ν α).Delivers 0 := by
  intro e state env _ _
  rw [C.attentive, C.faults_receive]
  rfl

namespace Layer

lemma faults_ownMoments (layer : Layer ω ν α) (actual : Subscriber ω ν α) (signal : Signal α)
    (session : Session layer.State) (below : actual.State) (env : ω) :
    faults (layer.ownMoments actual signal session below env)
      = (layer.turn session signal env).events.filterMap (·.2.fault?) := by
  rw [faults, ownMoments, moments, List.filterMap_map]
  rfl

/-- Of an error an active layer passes on that error, replaced by a fault of its own if there is
one. -/
lemma passedOn_error {layer : Layer ω ν α} {actual : Subscriber ω ν α} {e : StreamError}
    {session : Session layer.State} (active : session.phase = .active) (below : actual.State)
    {env : ω}
    (hexit : (layer.turn session (.error e) env).exit
      = .forward (layer.turn session (.error e) env).exit.signals) :
    layer.passedOn actual (.error e) session below env
      = actual.receive
          (.error (e.replaced (faults (layer.ownMoments actual (.error e) session below env))))
          below (layer.turn session (.error e) env).env := by
  cases session with
  | active parent state =>
      have hsignals := (layer.conduct (.active parent state) (.error e) env).signals_of_error rfl
        hexit
      rw [faults_ownMoments, ← Subscriber.receiveAll_singleton]
      unfold passedOn
      rw [hsignals]
  | _ => simp [Session.phase] at active

lemma delivers_onto {layer : Layer ω ν α} {actual : Subscriber ω ν α} {depth : ℕ}
    (delivers : actual.Delivers depth) : (layer.onto actual).Delivers (depth + 1) := by
  rintro e ⟨session, below⟩ env active calm
  obtain ⟨hsession, hbelow⟩ := List.forall_mem_cons.mp active
  obtain ⟨hexit, hescaped⟩ := escaped_receive_onto_eq_none.mp calm
  have hpassed := passedOn_error hsession below hexit
  rw [hpassed] at hescaped
  rw [signalsAt_succ_receive_onto, receive_onto, hpassed]
  simp only [faults_append, faults_map_beneath, StreamError.replaced_append]
  exact delivers _ below _ hbelow hescaped

/-- **What arrives of an error** at the end of a stack is the error that was sent, replaced by the
faults of the call in turn. -/
theorem delivers_stack (C : Consumer α) : ∀ layers : List (Layer ω ν α),
    (stack layers C.subscriber).Delivers layers.length
  | [] => C.delivers
  | _ :: layers => delivers_onto (delivers_stack C layers)

/-- **Which causes survive.**  Of the causes along two chains, those that are along the chain of the
first error, and those of the second error too unless the first one has its head.  And of the causes
along the chain of an error that is sent to an active stack, and at the head of the faults of that
call, exactly those that are kept wherever one of the errors hides the one before it. -/
theorem mem_idents_iff_kept :
    (∀ a b : StreamError, ∀ ident ∈ a.idents ++ b.idents,
      (ident ∈ (a.withSuppressed b).idents ↔ (b.cause.ident ∈ a.idents → ident ∈ a.idents)))
    ∧ ∀ (layers : List (Layer ω ν α)) (C : Consumer α) (e : StreamError)
        (state : (stack layers C.subscriber).State) (env : ω),
        let S := stack layers C.subscriber
        let outcome := S.receive (.error e) state env
        (∀ phase ∈ S.phases state, phase = .active) → outcome.escaped = none →
          ∃ x, signalsAt layers.length outcome.trace = [.error x]
            ∧ ∀ ident ∈ e.idents ++ (faults outcome.trace).map (·.cause.ident),
                (ident ∈ x.idents ↔ StreamError.Kept ident (e :: faults outcome.trace)) := by
  constructor
  · intro a b ident hident
    rw [StreamError.mem_idents_withSuppressed]
    rcases List.mem_append.mp hident with ha | hb
    · simp [ha]
    · tauto
  · intro layers C e state env S outcome active calm
    refine ⟨e.replaced (faults outcome.trace), delivers_stack C layers e state env active calm, ?_⟩
    intro ident hident
    rw [StreamError.mem_idents_replaced]
    refine and_iff_right ?_
    rcases List.mem_append.mp hident with he | hfault
    · exact ⟨e, List.mem_cons_self, he⟩
    · obtain ⟨fault, hmem, rfl⟩ := List.mem_map.mp hfault
      exact ⟨fault, List.mem_cons_of_mem e hmem, fault.cause_ident_mem_idents⟩

/-- A layer that fails over every error, in a way that depends on the error. -/
def grumbling (note : ν) (failure : StreamError → HookError) : Layer ω ν α where
  State := Unit
  hooks := { (Hooks.none : Hooks ω ν α Unit) with
    error := some fun error _ env => { effect := id, failure := some (failure error), note, env } }
  config := .standard

/-- Two layers that fail over an error, each with a cause of its own, lose nothing. -/
theorem kept_by_new_causes :
    let cause (ident : Ident) : Cause := .mk ident (.message "stop")
    let S : Subscriber Unit Unit Unit :=
      stack [grumbling () fun _ => .propagate (cause 2), grumbling () fun _ => .propagate (cause 3)]
        (Consumer.asking 0).subscriber
    let before := S.history [.signal (.subscribe (.direct 0))] ()
    let outcome := S.receive (.error (.paired (cause 0) (.lone (cause 1)))) before.state before.env
    S.phases before.state = [.active, .active]
      ∧ outcome.escaped = none
      ∧ ∃ x, signalsAt 2 outcome.trace = [.error x] ∧ ∀ ident ∈ [0, 1, 2, 3], ident ∈ x.idents := by
  intro cause S before outcome
  have active : ∀ phase ∈ S.phases before.state, phase = .active := by
    have hphases : S.phases before.state = [.active, .active] := rfl
    simp [hphases]
  obtain ⟨x, hheard, hkept⟩ := mem_idents_iff_kept.2
    [grumbling () fun _ => .propagate (cause 2), grumbling () fun _ => .propagate (cause 3)]
    (Consumer.asking 0) (.paired (cause 0) (.lone (cause 1))) before.state before.env active rfl
  refine ⟨rfl, rfl, x, hheard, fun ident hident => (hkept ident hident).mpr ?_⟩
  have hfaults : faults outcome.trace = [.lone (cause 2), .lone (cause 3)] := rfl
  rw [hfaults, StreamError.kept_cons_cons, StreamError.kept_cons_cons]
  exact ⟨fun hhides => absurd hhides (by decide), fun hhides => absurd hhides (by decide),
    StreamError.kept_singleton _ _⟩

/-- **A cause that is lost.**  The second of two layers gives back the cause that it is shown, and
that hides what the first layer had kept. -/
theorem lost_by_rethrow :
    let bar : Cause := .mk 0 (.message "bar")
    let test : Cause := .mk 1 (.message "test")
    let S : Subscriber Unit Unit Unit :=
      stack
        [grumbling () fun _ => .propagate test, grumbling () fun given => .propagate given.cause]
        (Consumer.asking 0).subscriber
    let before := S.history [.signal (.subscribe (.direct 0))] ()
    let outcome := S.receive (.error (.lone bar)) before.state before.env
    S.phases before.state = [.active, .active]
      ∧ outcome.escaped = none
      ∧ signalsAt 2 outcome.trace = [.error (.lone test)]
      ∧ bar.ident ∉ (StreamError.lone test).idents
      ∧ bar.ident ∉ ((StreamError.lone test).withSuppressed (.paired test (.lone bar))).idents :=
  ⟨rfl, rfl, rfl, by decide, by decide⟩

end Layer

end SignalPeek
