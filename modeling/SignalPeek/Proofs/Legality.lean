import Mathlib.Tactic.Common
import SignalPeek.Proofs.Reception
import SignalPeek.Proofs.Run

/-!
# Legality

Whatever a layer is sent, in whatever order, and whatever its hooks and the consumer do, the
consumer hears a legal conversation: nothing, or one subscription, then items, then at most one
terminal signal and nothing after it (`legal_history`).

**The invariant.**  What was heard fits the session (`Session.Fits`): nothing while it is fresh, an
open conversation while it is active, and any legal one once it has ended, since the end may come
without a signal.  One passage keeps the fit (`Passage.fits`), and a run is a sequence of passages.

**Items.**  A passage lets through no item but the one it was given (`Passage.sublist_items`), so
the items that are heard are among the items that were sent, in order and none twice.
-/

namespace SignalPeek

variable {ω ν α σ : Type}

/-- The shape of a conversation that keeps to the protocol. -/
inductive Legal : List (Signal α) → Prop where
  | silent : Legal []
  | opened (subscription : Subscription) (items : List α) :
      Legal (.subscribe subscription :: items.map .next)
  | closed (subscription : Subscription) (items : List α) (last : Signal α)
      (terminal : last.isTerminal = true) :
      Legal (.subscribe subscription :: (items.map .next ++ [last]))

/-- A conversation that has begun and not ended. -/
def Opened (heard : List (Signal α)) : Prop :=
  ∃ (subscription : Subscription) (items : List α),
    heard = .subscribe subscription :: items.map .next

/-- What the consumer has heard fits where the session stands. -/
def Session.Fits : Session σ → List (Signal α) → Prop
  | .fresh, heard => heard = []
  | .active _ _, heard => Opened heard
  | .terminated _ _, heard => Legal heard

lemma Session.Fits.legal {session : Session σ} {heard : List (Signal α)}
    (fits : session.Fits heard) : Legal heard := by
  cases session with
  | fresh =>
      rw [fits]
      exact .silent
  | active parent state =>
      obtain ⟨subscription, items, rfl⟩ := fits
      exact .opened subscription items
  | terminated parent state => exact fits

/-- **A passage keeps the fit**, whether or not all of what is passed on is heard. -/
lemma Passage.fits {session session' : Session σ} {signal : Signal α} {exit : Exit α}
    (passage : Passage session signal session' exit) {past heard : List (Signal α)}
    (fits : session.Fits past) (hheard : Subscriber.Heard exit.signals heard) :
    session'.Fits (past ++ heard) := by
  cases passage with
  | refused undue =>
      rw [hheard.nil, List.append_nil]
      exact fits
  | escaped due parent state fatal =>
      rw [hheard.nil, List.append_nil]
      exact fits.legal
  | seeded parent state =>
      obtain rfl : past = [] := fits
      rw [hheard.singleton]
      exact ⟨.relay parent, [], rfl⟩
  | unseeded parent error =>
      obtain rfl : past = [] := fits
      rcases hheard.pair with rfl | rfl
      · exact .opened .inert []
      · exact .closed .inert [] (.error error) rfl
  | item parent state state' item =>
      obtain ⟨subscription, items, rfl⟩ := fits
      rw [hheard.singleton]
      exact ⟨subscription, items ++ [item], by simp⟩
  | ended parent state state' due terminal =>
      obtain ⟨subscription, items, rfl⟩ := fits
      rw [hheard.singleton]
      exact .closed subscription items _ terminal

/-- A passage lets through no item but the one that it was given. -/
lemma Passage.sublist_items {session session' : Session σ} {signal : Signal α} {exit : Exit α}
    (passage : Passage session signal session' exit) {heard : List (Signal α)}
    (hheard : Subscriber.Heard exit.signals heard) :
    (heard.filterMap Signal.item?).Sublist signal.item?.toList := by
  refine (hheard.initial.sublist.filterMap _).trans ?_
  cases passage with
  | item parent state state' item => exact List.Sublist.refl _
  | @ended parent state state' signal last due terminal =>
      cases last with
      | error _ => exact List.nil_sublist _
      | complete => exact List.nil_sublist _
      | _ => simp [Signal.isTerminal] at terminal
  | _ => exact List.nil_sublist _

namespace Layer

variable {layer : Layer ω ν α} {actual : Subscriber ω ν α}

lemma fits_receive (hactual : actual.Attentive) (signal : Signal α) {session : Session layer.State}
    {past : List (Signal α)} (fits : session.Fits past) (below : actual.State) (env : ω) :
    let outcome := (layer.onto actual).receive signal (session, below) env
    (layer.sessionOf actual outcome.state).Fits (past ++ signalsAt 1 outcome.trace)
      ∧ ((signalsAt 1 outcome.trace).filterMap Signal.item?).Sublist signal.item?.toList := by
  have passage := layer.passage session signal env
  have hheard := heard_receive_onto hactual signal session below env
  refine ⟨?_, passage.sublist_items hheard⟩
  rw [receive_onto] at hheard ⊢
  exact passage.fits fits hheard

/-- **Below a layer the conversation fits the session**, over any subscriber that notes its signals
and after any run. -/
theorem fits_history (layer : Layer ω ν α) (hactual : actual.Attentive)
    (stimuli : List (Stimulus α)) (env : ω) :
    (layer.sessionOf actual ((layer.onto actual).history stimuli env).state).Fits
        (signalsAt 1 ((layer.onto actual).history stimuli env).trace)
      ∧ ((signalsAt 1 ((layer.onto actual).history stimuli env).trace).filterMap
          Signal.item?).Sublist (stimuli.filterMap Stimulus.item?) := by
  refine (layer.onto actual).run_induction
    (motive := fun stimuli run => (layer.sessionOf actual run.state).Fits (signalsAt 1 run.trace)
      ∧ ((signalsAt 1 run.trace).filterMap Signal.item?).Sublist
          (stimuli.filterMap Stimulus.item?)) ?start ?step stimuli
  case start => exact ⟨rfl, List.Sublist.refl _⟩
  case step =>
    intro past run stimulus ⟨fits, items⟩
    simp only [Run.extend, signalsAt_append, List.filterMap_append]
    cases stimulus with
    | signal signal =>
        obtain ⟨fits', items'⟩ := fits_receive hactual signal fits (Prod.snd run.state) run.env
        exact ⟨fits', items.append items'⟩
    | call call =>
        simp only [Subscriber.signalsAt_respond_call, List.append_nil, List.filterMap_nil]
        exact ⟨fits, items.trans (List.sublist_append_left _ _)⟩

/-- **The consumer hears a legal conversation** about items that were sent. -/
theorem legal_history (layer : Layer ω ν α) (C : Consumer α) (stimuli : List (Stimulus α))
    (env : ω) :
    Legal (signalsAt 1 ((layer.onto C.subscriber).history stimuli env).trace)
      ∧ ((signalsAt 1 ((layer.onto C.subscriber).history stimuli env).trace).filterMap
          Signal.item?).Sublist (stimuli.filterMap Stimulus.item?) := by
  obtain ⟨fits, items⟩ := fits_history layer C.attentive stimuli env
  exact ⟨fits.legal, items⟩

end Layer

end SignalPeek
