import Mathlib.Data.List.Flatten
import Mathlib.Tactic.Common
import SignalPeek.Proofs.DoubleFault
import SignalPeek.Proofs.HookOrder
import SignalPeek.Proofs.SeedFailures

/-!
# Faults that accumulate

An error goes down through a stack of active layers, and at some of them the hook fails over it with
an error of a single, new cause.  Then nothing is hidden on the way: each of these causes comes in
front of all that were there before.

**At every depth** one error arrives (`lowers_stack`), which is the error that was sent, replaced by
the faults of the layers before, and the hook of the layer there is shown that very error.

**Of single causes.**  An error that has one cause, and a new one, takes all that it replaces along
as its companions (`causes_withSuppressed_of_new`).  So what arrives has the causes of the faults,
the latest in front, and then those of the error that was sent (`causes_replaced_of_new`).
-/

namespace SignalPeek

variable {ω ν α σ : Type}

/-! ## New causes -/

namespace StreamError

/-- An error of one cause that is not at the head of the other takes the whole other chain along. -/
lemma causes_withSuppressed_of_new {fault other : StreamError} (lone : fault.companion? = none)
    (new : fault.cause.ident ≠ other.cause.ident) :
    (fault.withSuppressed other).causes = fault.cause :: other.causes := by
  cases fault with
  | lone cause =>
      have absent : other.cause.ident ∉ (StreamError.lone cause).idents :=
        fun h => new (List.mem_singleton.mp h).symm
      rw [causes_withSuppressed, if_neg absent]
      rfl
  | paired cause companion => cases lone

/-- **Single new causes accumulate**, the latest in front. -/
lemma causes_replaced_of_new {e : StreamError} {faults : List StreamError}
    (lone : ∀ fault ∈ faults, fault.companion? = none)
    (distinct : (faults.map (·.cause.ident)).Nodup)
    (new : ∀ fault ∈ faults, fault.cause.ident ∉ e.idents) :
    (e.replaced faults).causes = (faults.map cause).reverse ++ e.causes := by
  induction faults generalizing e with
  | nil => rfl
  | cons fault faults ih =>
      obtain ⟨hlone, hlones⟩ := List.forall_mem_cons.mp lone
      obtain ⟨hnew, hnews⟩ := List.forall_mem_cons.mp new
      obtain ⟨hfresh, hdistinct⟩ := List.nodup_cons.mp distinct
      have hcauses : (fault.withSuppressed e).causes = fault.cause :: e.causes :=
        causes_withSuppressed_of_new hlone fun same => hnew (same ▸ e.cause_ident_mem_idents)
      have hidents : (fault.withSuppressed e).idents = fault.cause.ident :: e.idents := by
        rw [idents, hcauses]
        rfl
      have hlater : ∀ later ∈ faults, later.cause.ident ∉ (fault.withSuppressed e).idents := by
        intro later hmem hcarried
        rw [hidents] at hcarried
        rcases List.mem_cons.mp hcarried with same | old
        · exact hfresh (List.mem_map.mpr ⟨later, hmem, same⟩)
        · exact hnews later hmem old
      calc (e.replaced (fault :: faults)).causes
          = ((fault.withSuppressed e).replaced faults).causes := rfl
        _ = (faults.map cause).reverse ++ (fault.withSuppressed e).causes :=
            ih hlones hdistinct hlater
        _ = ((fault :: faults).map cause).reverse ++ e.causes := by simp [hcauses]

end StreamError

/-! ## Faults by layer -/

/-- The error that a hook run puts in the place of a signal. -/
def HookRun.fault? (run : HookRun ν α) : Option StreamError :=
  run.failure.bind fun failure => failure.route.toOption

def faultsAt (layer : ℕ) (trace : List (Moment ν α)) : List StreamError :=
  (hookRunsAt layer trace).filterMap HookRun.fault?

/-- The errors that the hooks of the first so many layers put in the place of signals, layer by
layer. -/
def faultsBefore (depth : ℕ) (trace : List (Moment ν α)) : List StreamError :=
  (List.range depth).flatMap (faultsAt · trace)

lemma faultsBefore_sublist {depth depth' : ℕ} (h : depth ≤ depth') (trace : List (Moment ν α)) :
    (faultsBefore depth trace).Sublist (faultsBefore depth' trace) :=
  (List.range_sublist.mpr h).flatMap _

lemma Event.fault?_eq (event : Event ν α) : event.fault? = event.hookRun?.bind HookRun.fault? := by
  cases event <;> rfl

namespace Layer

variable {layer : Layer ω ν α} {actual : Subscriber ω ν α}

lemma faultsBefore_succ_receive_onto (depth : ℕ) (signal : Signal α)
    (session : Session layer.State) (below : actual.State) (env : ω) :
    faultsBefore (depth + 1) ((layer.onto actual).receive signal (session, below) env).trace
      = faults (layer.ownMoments actual signal session below env)
        ++ faultsBefore depth (layer.passedOn actual signal session below env).trace := by
  have hown : faultsAt 0 ((layer.onto actual).receive signal (session, below) env).trace
      = faults (layer.ownMoments actual signal session below env) := by
    rw [faultsAt, hookRunsAt_zero_receive_onto, faults_ownMoments, List.filterMap_filterMap]
    simp only [Event.fault?_eq]
  have hbelow (depth : ℕ) :
      faultsAt (depth + 1) ((layer.onto actual).receive signal (session, below) env).trace
        = faultsAt depth (layer.passedOn actual signal session below env).trace := by
    rw [faultsAt, hookRunsAt_succ_receive_onto, faultsAt]
  rw [faultsBefore, List.range_succ_eq_map, List.flatMap_cons, List.flatMap_map, hown]
  simp only [hbelow, faultsBefore]

end Layer

/-- What arrives at some depth of these layers when an error is sent: the error, replaced by the
faults on the way, and if there is a layer with a hook for errors, its hook is shown that. -/
structure Arrives (layers : List (Layer ω ν α)) (e : StreamError) (trace : List (Moment ν α))
    (depth : ℕ) : Prop where
  told : signalsAt depth trace = [.error (e.replaced (faultsBefore depth trace))]
  shown : ∀ layer ∈ layers[depth]?, (hookRunsAt depth trace).map (·.occasion)
    = if layer.hooks.error.isSome then [.error (e.replaced (faultsBefore depth trace))] else []

/-- An error that finds all layers active, and from which nothing escapes, arrives at every depth.
-/
def Subscriber.Lowers (S : Subscriber ω ν α) (layers : List (Layer ω ν α)) : Prop :=
  ∀ e state env, (∀ phase ∈ S.phases state, phase = .active) →
    (S.receive (.error e) state env).escaped = none →
    ∀ depth ≤ layers.length, Arrives layers e (S.receive (.error e) state env).trace depth

lemma Consumer.lowers (C : Consumer α) :
    (C.subscriber : Subscriber ω ν α).Lowers ([] : List (Layer ω ν α)) := by
  intro e state env _ _ depth hdepth
  obtain rfl : depth = 0 := Nat.le_zero.mp hdepth
  exact ⟨C.attentive (.error e) state env, nofun⟩

namespace Layer

variable {layer : Layer ω ν α} {actual : Subscriber ω ν α}

lemma lowers_onto {layers : List (Layer ω ν α)} (lowers : actual.Lowers layers) :
    (layer.onto actual).Lowers (layer :: layers) := by
  rintro e ⟨session, below⟩ env active calm depth hdepth
  obtain ⟨hsession, hbelow⟩ := List.forall_mem_cons.mp active
  obtain ⟨hexit, hescaped⟩ := escaped_receive_onto_eq_none.mp calm
  cases depth with
  | zero =>
      have taken : session.accepts (.error e : Signal α) = true := by
        cases session <;> first | rfl | exact nomatch hsession
      refine ⟨layer.attentive_onto actual (.error e) (session, below) env, ?_⟩
      rintro _ ⟨⟩
      rw [hookRunsAt_zero_receive_onto, (layer.conduct session (.error e) env).occasions, taken]
      rfl
  | succ depth =>
      have hpassed := passedOn_error hsession below hexit
      rw [hpassed] at hescaped
      have arrives := lowers _ below _ hbelow hescaped depth (Nat.le_of_succ_le_succ hdepth)
      rw [← hpassed] at arrives
      constructor
      · rw [signalsAt_succ_receive_onto, faultsBefore_succ_receive_onto,
          StreamError.replaced_append]
        exact arrives.told
      · rw [hookRunsAt_succ_receive_onto, faultsBefore_succ_receive_onto,
          StreamError.replaced_append]
        exact arrives.shown

/-- **An error arrives at every depth** of a stack, replaced by the faults of the layers before. -/
theorem lowers_stack (C : Consumer α) : ∀ layers : List (Layer ω ν α),
    (stack layers C.subscriber).Lowers layers
  | [] => C.lowers
  | _ :: layers => lowers_onto (lowers_stack C layers)

/-- **Causes accumulate.**  An error is sent to a stack of active layers, where each hook that fails
over it fails with an error of one cause, the causes are distinct and none is a cause of the error
that was sent.  If nothing escapes, then at every depth one error arrives, and its causes are those
of the layers before, the latest in front, and behind them the causes of the error that was sent.
The hook of a layer is shown the error that arrives there, and the consumer comes after all layers.
-/
theorem accumulated_stack (layers : List (Layer ω ν α)) (C : Consumer α) (e : StreamError)
    (state : (stack layers C.subscriber).State) (env : ω) :
    let S := stack layers C.subscriber
    let outcome := S.receive (.error e) state env
    let faults := faultsBefore layers.length outcome.trace
    (∀ phase ∈ S.phases state, phase = .active) →
      (∀ fault ∈ faults, fault.companion? = none) →
      (faults.map (·.cause.ident)).Nodup →
      (∀ fault ∈ faults, fault.cause.ident ∉ e.idents) →
      outcome.escaped = none →
      ∀ depth ≤ layers.length, ∃ x,
        signalsAt depth outcome.trace = [.error x]
          ∧ x.causes
            = ((faultsBefore depth outcome.trace).map StreamError.cause).reverse ++ e.causes
          ∧ ∀ layer ∈ layers[depth]?, (hookRunsAt depth outcome.trace).map (·.occasion)
              = if layer.hooks.error.isSome then [.error x] else [] := by
  intro S outcome faults active lone distinct new calm depth hdepth
  have arrives := lowers_stack C layers e state env active calm depth hdepth
  have hsublist := faultsBefore_sublist hdepth outcome.trace
  refine ⟨_, arrives.told, StreamError.causes_replaced_of_new ?_ ?_ ?_, arrives.shown⟩
  · exact fun fault h => lone fault (hsublist.subset h)
  · exact distinct.sublist (hsublist.map _)
  · exact fun fault h => new fault (hsublist.subset h)

/-- The first and the last of three layers fail over an error of two causes.  The last one is shown
the fault of the first in front of these, and the consumer is given all four. -/
theorem accumulated_around_plain :
    let cause (ident : Ident) : Cause := .mk ident (.message "stop")
    let layers : List (Layer Unit Unit Unit) :=
      [grumbling () fun _ => .propagate (cause 2), plain,
        grumbling () fun _ => .propagate (cause 3)]
    let S := stack layers (Consumer.asking 0).subscriber
    let before := S.history [.signal (.subscribe (.direct 0))] ()
    let outcome := S.receive (.error (.paired (cause 0) (.lone (cause 1)))) before.state before.env
    S.phases before.state = [.active, .active, .active]
      ∧ faultsBefore 3 outcome.trace = [.lone (cause 2), .lone (cause 3)]
      ∧ outcome.escaped = none
      ∧ (∃ x, x.causes = [cause 2, cause 0, cause 1]
          ∧ (hookRunsAt 2 outcome.trace).map (·.occasion) = [.error x])
      ∧ ∃ x, signalsAt 3 outcome.trace = [.error x]
          ∧ x.causes = [cause 3, cause 2, cause 0, cause 1] := by
  intro cause layers S before outcome
  have hfirst : faultsBefore 2 outcome.trace = [.lone (cause 2)] := by decide +kernel
  have hfaults : faultsBefore 3 outcome.trace = [.lone (cause 2), .lone (cause 3)] := by decide +kernel
  have hphases : S.phases before.state = [.active, .active, .active] := rfl
  have calm : outcome.escaped = none := rfl
  have active : ∀ phase ∈ S.phases before.state, phase = .active := by simp [hphases]
  have lone : ∀ fault ∈ faultsBefore 3 outcome.trace, fault.companion? = none := by
    rw [hfaults]
    simp [StreamError.companion?]
  have distinct : ((faultsBefore 3 outcome.trace).map (·.cause.ident)).Nodup := by
    rw [hfaults]
    decide
  have new : ∀ fault ∈ faultsBefore 3 outcome.trace, fault.cause.ident ∉ [0, 1] := by
    rw [hfaults]
    decide
  have accumulated := accumulated_stack layers (Consumer.asking 0)
    (.paired (cause 0) (.lone (cause 1))) before.state before.env active lone distinct new calm
  obtain ⟨x, _, hcauses, hshown⟩ := accumulated 2 (by decide)
  obtain ⟨y, htold, hcauses', _⟩ := accumulated 3 (by decide)
  rw [hfirst] at hcauses
  rw [hfaults] at hcauses'
  exact ⟨hphases, hfaults, calm, ⟨x, hcauses, hshown _ rfl⟩, y, htold, hcauses'⟩

end Layer

end SignalPeek
