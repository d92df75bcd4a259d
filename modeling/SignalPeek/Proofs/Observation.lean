import Mathlib.Tactic.Common
import SignalPeek.Fault.Severity
import SignalPeek.Trace

/-!
# Observations of a trace

Besides the signals that arrive somewhere (`signalsAt`) and the calls that reach a channel
(`callsTo`), a trace shows which hooks ran at a layer (`hookRunsAt`), and which errors they put in
the place of signals at any layer (`faults`).  Like those two, the views of this file turn traces
put one after the other into lists put one after the other.

**Own events.**  What a layer brings about itself is told apart from what arrives or comes back from
elsewhere (`Event.own`).
-/

namespace SignalPeek

variable {ν α : Type}

/-- The events that a layer brings about itself. -/
def Event.own : Event ν α → Bool
  | .hook _ | .notice _ _ | .sunk _ _ | .called _ _ => true
  | .received _ | .failed _ | .tolerated _ => false

def Event.received? : Event ν α → Option (Signal α)
  | .received signal => some signal
  | _ => none

def Event.hookRun? : Event ν α → Option (HookRun ν α)
  | .hook run => some run
  | _ => none

@[simp] lemma Event.hookRun?_hook (run : HookRun ν α) :
    (Event.hook run).hookRun? = some run := rfl

@[simp] lemma Event.hookRun?_notice (operator : String) (notice : Notice) :
    (Event.notice operator notice : Event ν α).hookRun? = none := rfl

/-- The record of the notice that an event is. -/
def Event.record? : Event ν α → Option Record
  | .notice operator given => some (given.record operator)
  | _ => none

/-- The event is neither an arrival nor the run of a hook nor a notice. -/
structure Event.Quiet (event : Event ν α) : Prop where
  unreceived : event.received? = none
  idle : event.hookRun? = none
  silent : event.record? = none

/-- The error that a hook, in failing, puts in the place of a signal. -/
def Event.fault? : Event ν α → Option StreamError
  | .hook run => run.failure.bind fun failure => failure.route.toOption
  | _ => none

/-- The run of a hook of this layer that a moment shows. -/
def Moment.hookRunAt? (layer : ℕ) (moment : Moment ν α) : Option (HookRun ν α) :=
  if moment.layer = layer then moment.event.hookRun? else none

def hookRunsAt (layer : ℕ) (trace : List (Moment ν α)) : List (HookRun ν α) :=
  trace.filterMap (·.hookRunAt? layer)

/-- The errors that hooks, at any layer, put in the place of signals in the course of a trace. -/
def faults (trace : List (Moment ν α)) : List StreamError :=
  trace.filterMap (·.event.fault?)

namespace Moment

@[simp] lemma signalAt?_succ_beneath (layer : ℕ) (above : Standing) (moment : Moment ν α) :
    (moment.beneath above).signalAt? (layer + 1) = moment.signalAt? layer := by
  simp only [signalAt?, beneath, Nat.add_right_cancel_iff]

@[simp] lemma hookRunAt?_succ_beneath (layer : ℕ) (above : Standing) (moment : Moment ν α) :
    (moment.beneath above).hookRunAt? (layer + 1) = moment.hookRunAt? layer := by
  simp only [hookRunAt?, beneath, Nat.add_right_cancel_iff]

end Moment

@[simp] lemma hookRunsAt_append (layer : ℕ) (first second : List (Moment ν α)) :
    hookRunsAt layer (first ++ second) = hookRunsAt layer first ++ hookRunsAt layer second := by
  simp [hookRunsAt]

@[simp] lemma faults_append (first second : List (Moment ν α)) :
    faults (first ++ second) = faults first ++ faults second := by
  simp [faults]

/-- No hook that runs below a layer is one of the layer. -/
@[simp] lemma hookRunsAt_zero_map_beneath (above : Standing) (trace : List (Moment ν α)) :
    hookRunsAt 0 (trace.map (·.beneath above)) = [] := by
  simp only [hookRunsAt, List.filterMap_map, List.filterMap_eq_nil_iff]
  intro moment _
  simp [Moment.hookRunAt?, Moment.beneath]

@[simp] lemma hookRunsAt_succ_map_beneath (layer : ℕ) (above : Standing)
    (trace : List (Moment ν α)) :
    hookRunsAt (layer + 1) (trace.map (·.beneath above)) = hookRunsAt layer trace := by
  have h : (fun moment : Moment ν α => (moment.beneath above).hookRunAt? (layer + 1)) =
      (·.hookRunAt? layer) := by
    funext moment
    exact moment.hookRunAt?_succ_beneath layer above
  rw [hookRunsAt, List.filterMap_map]
  exact congrArg (List.filterMap · trace) h

/-- Which hooks fail does not depend on the layer that one looks from. -/
@[simp] lemma faults_map_beneath (above : Standing) (trace : List (Moment ν α)) :
    faults (trace.map (·.beneath above)) = faults trace := by
  simp only [faults, List.filterMap_map]
  rfl

lemma Event.received?_of_own {event : Event ν α} (h : event.own = true) :
    event.received? = none := by
  cases event <;> first | rfl | simp [own] at h

lemma Moment.received?_of_signalAt? {moment : Moment ν α} {layer : ℕ} {signal : Signal α}
    (h : moment.signalAt? layer = some signal) : moment.event.received? = some signal := by
  unfold signalAt? at h
  split at h
  · rename_i given hevent
    split at h
    · rw [hevent]
      exact h
    · exact nomatch h
  · exact nomatch h

lemma Moment.signalAt?_of_ne {moment : Moment ν α} {layer : ℕ} (h : moment.layer ≠ layer) :
    moment.signalAt? layer = none := by
  unfold signalAt?
  split
  · exact if_neg h
  · rfl

lemma Moment.signalAt?_of_received? {moment : Moment ν α} (layer : ℕ)
    (h : moment.event.received? = none) : moment.signalAt? layer = none := by
  refine Option.eq_none_iff_forall_ne_some.mpr fun signal hsignal => ?_
  exact Option.some_ne_none signal ((received?_of_signalAt? hsignal).symm.trans h)

lemma eq_called_of_mem {subscription : Subscription} {calls : List Call} {event : Event ν α}
    (h : event ∈ subscription.called calls) : ∃ channel call, event = .called channel call := by
  unfold Subscription.called at h
  split at h
  · rename_i channel _
    obtain ⟨call, _, rfl⟩ := List.mem_map.mp h
    exact ⟨channel, call, rfl⟩
  · simp at h

lemma quiet_of_mem_called {subscription : Subscription} {calls : List Call} {event : Event ν α}
    (h : event ∈ subscription.called calls) : event.Quiet := by
  obtain ⟨channel, call, rfl⟩ := eq_called_of_mem h
  exact ⟨rfl, rfl, rfl⟩

lemma signalsAt_eq_nil {layer : ℕ} {trace : List (Moment ν α)}
    (h : ∀ moment ∈ trace, moment.event.received? = none) : signalsAt layer trace = [] := by
  rw [signalsAt, List.filterMap_eq_nil_iff]
  intro moment hmoment
  exact Moment.signalAt?_of_received? layer (h moment hmoment)

lemma hookRunsAt_eq_nil {layer : ℕ} {trace : List (Moment ν α)}
    (h : ∀ moment ∈ trace, moment.event.hookRun? = none) : hookRunsAt layer trace = [] := by
  rw [hookRunsAt, List.filterMap_eq_nil_iff]
  intro moment hmoment
  unfold Moment.hookRunAt?
  split
  · exact h moment hmoment
  · rfl

/-- An arrival that no other follows is the one signal to the layer it arrives at. -/
lemma signalsAt_arrival (layer : ℕ) (standings : List Standing) (signal : Signal α)
    {trace : List (Moment ν α)} (h : ∀ moment ∈ trace, moment.event.received? = none) :
    signalsAt layer ({ layer, standings, event := .received signal } :: trace) = [signal] := by
  have hhead : Moment.signalAt? layer
      ({ layer, standings, event := .received signal } : Moment ν α) = some signal := by
    simp [Moment.signalAt?]
  rw [signalsAt, List.filterMap_cons_some hhead]
  exact congrArg (signal :: ·) (signalsAt_eq_nil h)

lemma signalsAt_eq_nil_of_layer (layer' : ℕ) {layer : ℕ} {trace : List (Moment ν α)}
    (h : ∀ moment ∈ trace, moment.layer = layer') (hne : layer' ≠ layer) :
    signalsAt layer trace = [] := by
  rw [signalsAt, List.filterMap_eq_nil_iff]
  intro moment hmoment
  exact Moment.signalAt?_of_ne (h moment hmoment ▸ hne)

end SignalPeek
