import Mathlib.Tactic.Common
import SignalPeek.Consumer
import SignalPeek.Layer.Basic
import SignalPeek.Proofs.Turn

/-!
# What a layer does with a signal

`Layer.onto` in one equation (`receive_onto`): the layer takes its turn, the subscriber below
receives what the turn passes on, and a fatal error comes from one of the two.  Everything later
files say about layers goes through it and through the views of its trace that follow.

**Attention.**  A consumer notes each signal that it takes, and so does a layer
(`Subscriber.Attentive`).  So what arrives at the subscriber below can be read off the trace: the
signals that were sent to it, up to the first one that let a fatal error escape
(`heard_receiveAll`).
-/

namespace SignalPeek

variable {ω ν α : Type}

/-- Nothing escapes from two outcomes in a row if it does from neither. -/
lemma Outcome.andThen_escaped_eq_none {τ : Type} {first : Outcome ω ν α τ}
    {rest : τ → ω → Outcome ω ν α τ} :
    (first.andThen rest).escaped = none
      ↔ first.escaped = none ∧ (rest first.state first.env).escaped = none := by
  cases hescaped : first.escaped with
  | some fatal => simp [andThen_of_escaped hescaped, hescaped]
  | none => simp [andThen_of_not_escaped hescaped, precededBy]

namespace Subscriber

variable {S : Subscriber ω ν α}

lemma receiveAll_singleton (signal : Signal α) (state : S.State) (env : ω) :
    S.receiveAll [signal] state env = S.receive signal state env := by
  simp only [receiveAll, Outcome.andThen]
  split
  · rfl
  · rename_i h
    simp [Outcome.idle, Outcome.precededBy, ← h]

/-- **Induction over signals that are sent.**  The first of them lets a fatal error escape and is
all that comes of them, or the others follow. -/
theorem receiveAll_induction
    {motive : List (Signal α) → S.State → Outcome ω ν α S.State → Prop}
    (nil : ∀ state env, motive [] state (.idle state env))
    (stop : ∀ signal signals state env fatal, (S.receive signal state env).escaped = some fatal →
      motive (signal :: signals) state (S.receive signal state env))
    (go : ∀ signal signals state env rest, (S.receive signal state env).escaped = none →
      motive signals (S.receive signal state env).state rest →
        motive (signal :: signals) state (rest.precededBy (S.receive signal state env).trace))
    (signals : List (Signal α)) (state : S.State) (env : ω) :
    motive signals state (S.receiveAll signals state env) := by
  induction signals generalizing state env with
  | nil => exact nil state env
  | cons signal signals ih =>
      rw [receiveAll]
      cases hescaped : (S.receive signal state env).escaped with
      | some fatal =>
          rw [Outcome.andThen_of_escaped hescaped]
          exact stop signal signals state env fatal hescaped
      | none =>
          rw [Outcome.andThen_of_not_escaped hescaped]
          exact go signal signals state env _ hescaped (ih _ _)

/-- A subscriber that notes each signal where it arrives. -/
def Attentive (S : Subscriber ω ν α) : Prop :=
  ∀ signal state env, signalsAt 0 (S.receive signal state env).trace = [signal]

/-- **What is heard of signals that are sent.**  They are heard in order, up to the first one that
lets a fatal error escape, and that one is heard as well. -/
structure Heard (sent heard : List (Signal α)) : Prop where
  initial : heard <+: sent
  answered : sent ≠ [] → heard ≠ []

lemma Heard.nil {heard : List (Signal α)} (h : Heard [] heard) : heard = [] :=
  List.prefix_nil.mp h.initial

lemma Heard.singleton {signal : Signal α} {heard : List (Signal α)} (h : Heard [signal] heard) :
    heard = [signal] := by
  rcases List.prefix_cons_iff.mp h.initial with hnil | ⟨rest, rfl, hrest⟩
  · exact absurd hnil (h.answered (List.cons_ne_nil _ _))
  · rw [List.prefix_nil.mp hrest]

lemma Heard.pair {first second : Signal α} {heard : List (Signal α)}
    (h : Heard [first, second] heard) : heard = [first] ∨ heard = [first, second] := by
  rcases List.prefix_cons_iff.mp h.initial with hnil | ⟨rest, rfl, hrest⟩
  · exact absurd hnil (h.answered (List.cons_ne_nil _ _))
  · rcases List.prefix_cons_iff.mp hrest with rfl | ⟨rest', rfl, hrest'⟩
    · exact Or.inl rfl
    · exact Or.inr (by rw [List.prefix_nil.mp hrest'])

lemma heard_receiveAll (hS : S.Attentive) (signals : List (Signal α)) (state : S.State)
    (env : ω) : Heard signals (signalsAt 0 (S.receiveAll signals state env).trace) := by
  refine receiveAll_induction
    (motive := fun signals _ outcome => Heard signals (signalsAt 0 outcome.trace))
    ?nil ?stop ?go signals state env
  case nil =>
    intro state env
    exact ⟨List.nil_prefix, fun h => absurd rfl h⟩
  case stop =>
    intro signal signals state env fatal _
    rw [hS]
    exact ⟨List.prefix_append [signal] signals, fun _ => List.cons_ne_nil _ _⟩
  case go =>
    intro signal signals state env rest _ heard
    simp only [Outcome.precededBy, signalsAt_append]
    rw [hS]
    exact ⟨(List.prefix_cons_inj signal).mpr heard.initial, fun _ => List.cons_ne_nil _ _⟩

end Subscriber

/-- What a consumer that holds a subscription, or none, shows of a reaction: its calls, and then the
fatal error. -/
def Reaction.events {τ : Type} (reaction : Reaction τ) (held : Option Subscription) :
    List (Event ν α) :=
  (held.map (·.called reaction.calls)).getD [] ++ reaction.fatal.toList.map .failed

/-- **One equation for a consumer.** -/
lemma Consumer.receive_eq (C : Consumer α) (signal : Signal α) (held : Option Subscription)
    (own : C.State) (env : ω) :
    (C.subscriber : Subscriber ω ν α).receive signal (held, own) env =
      { state := (holding signal held, (C.react signal own).state)
        env := env
        trace := (.received signal :: (C.react signal own).events (holding signal held)).map
          fun event => { layer := 0, standings := [], event }
        escaped := (C.react signal own).fatal } := by
  simp only [subscriber, Reaction.events]
  cases holding signal held <;> cases (C.react signal own).fatal <;> rfl

/-- After the arrival of a signal a consumer makes calls and may fail. -/
lemma Reaction.of_mem_events {τ : Type} {reaction : Reaction τ} {held : Option Subscription}
    {event : Event ν α} (h : event ∈ reaction.events held) :
    (∃ channel call, event = .called channel call) ∨ ∃ fatal, event = .failed fatal := by
  rcases List.mem_append.mp h with hcall | hfatal
  · cases held with
    | none => simp at hcall
    | some held => exact Or.inl (eq_called_of_mem hcall)
  · obtain ⟨fatal, _, rfl⟩ := List.mem_map.mp hfatal
    exact Or.inr ⟨fatal, rfl⟩

lemma Consumer.attentive (C : Consumer α) : (C.subscriber : Subscriber ω ν α).Attentive := by
  rintro signal ⟨held, own⟩ env
  rw [C.receive_eq]
  refine signalsAt_arrival 0 [] signal fun moment h => ?_
  obtain ⟨event, hevent, rfl⟩ := List.mem_map.mp h
  rcases Reaction.of_mem_events hevent with ⟨channel, call, rfl⟩ | ⟨fatal, rfl⟩ <;> rfl

namespace Layer

variable {layer : Layer ω ν α} {actual : Subscriber ω ν α}

/-- The session of a layer, out of the state that it has together with what is below. -/
def sessionOf (layer : Layer ω ν α) (actual : Subscriber ω ν α)
    (state : (layer.onto actual).State) : Session layer.State :=
  Prod.fst state

/-- What a layer brings about itself in answer to a signal, the arrival of the signal first. -/
def ownMoments (layer : Layer ω ν α) (actual : Subscriber ω ν α) (signal : Signal α)
    (session : Session layer.State) (below : actual.State) (env : ω) : List (Moment ν α) :=
  moments (actual.standings below)
    ((session.standing, .received signal) :: (layer.turn session signal env).events)

/-- What a layer does about a signal is a passage of its session. -/
lemma passage (layer : Layer ω ν α) (session : Session layer.State) (signal : Signal α) (env : ω) :
    Passage session signal (layer.turn session signal env).session
      (layer.turn session signal env).exit :=
  Session.passage_turn layer.hooks layer.config session signal env

/-- What comes of the signals that a layer passes on. -/
def passedOn (layer : Layer ω ν α) (actual : Subscriber ω ν α) (signal : Signal α)
    (session : Session layer.State) (below : actual.State) (env : ω) :
    Outcome ω ν α actual.State :=
  actual.receiveAll (layer.turn session signal env).exit.signals below
    (layer.turn session signal env).env

/-- **One equation for a layer.** -/
theorem receive_onto (signal : Signal α) (session : Session layer.State) (below : actual.State)
    (env : ω) :
    (layer.onto actual).receive signal (session, below) env =
      { state := ((layer.turn session signal env).session,
          (layer.passedOn actual signal session below env).state)
        env := (layer.passedOn actual signal session below env).env
        trace := layer.ownMoments actual signal session below env
          ++ (layer.passedOn actual signal session below env).trace.map
              (·.beneath (layer.turn session signal env).session.standing)
        escaped := (layer.turn session signal env).exit.fatal?.or
          (layer.passedOn actual signal session below env).escaped } := by
  cases hexit : (layer.turn session signal env).exit with
  | forward signals => simp [onto, passedOn, ownMoments, hexit, Exit.signals, Exit.fatal?]
  | escape fatal =>
      simp [onto, passedOn, ownMoments, hexit, Exit.signals, Exit.fatal?, Subscriber.receiveAll,
        Outcome.idle]

lemma signalsAt_zero_ownMoments (signal : Signal α) (session : Session layer.State)
    (below : actual.State) (env : ω) :
    signalsAt 0 (layer.ownMoments actual signal session below env) = [signal] := by
  refine signalsAt_arrival 0 _ signal ?_
  intro moment h
  obtain ⟨shown, hshown, rfl⟩ := List.mem_map.mp h
  exact Event.received?_of_own
    (Session.own_of_mem_turn layer.hooks layer.config session signal env shown hshown)

lemma signalsAt_succ_ownMoments (depth : ℕ) (signal : Signal α) (session : Session layer.State)
    (below : actual.State) (env : ω) :
    signalsAt (depth + 1) (layer.ownMoments actual signal session below env) = [] := by
  refine signalsAt_eq_nil_of_layer 0 ?_ (Nat.succ_ne_zero depth).symm
  intro moment h
  obtain ⟨shown, _, rfl⟩ := List.mem_map.mp h
  rfl

/-- A signal that is not due changes no state and is not passed on. -/
lemma receive_onto_of_not_accepts {session : Session layer.State} {signal : Signal α}
    (undue : session.accepts signal = false) (below : actual.State) (env : ω) :
    (layer.onto actual).receive signal (session, below) env =
      { state := (session, below)
        env := env
        trace := layer.ownMoments actual signal session below env
        escaped := none } := by
  have hturn : layer.turn session signal env = Session.refuse layer.config session signal env :=
    Session.turn_of_not_accepts layer.hooks layer.config undue env
  have hpassed : layer.passedOn actual signal session below env = .idle below env := by
    simp only [passedOn, hturn]
    rfl
  rw [receive_onto, hpassed, hturn]
  simp [Session.refuse, Outcome.idle, Exit.fatal?]

lemma hookRunsAt_zero_ownMoments_of_not_accepts {session : Session layer.State}
    {signal : Signal α} (undue : session.accepts signal = false) (below : actual.State) (env : ω) :
    hookRunsAt 0 (layer.ownMoments actual signal session below env) = [] := by
  refine hookRunsAt_eq_nil fun moment h => ?_
  obtain ⟨shown, hshown, rfl⟩ := List.mem_map.mp h
  rcases List.mem_cons.mp hshown with rfl | hturn
  · rfl
  · exact Session.hookRun?_of_mem_refused layer.hooks layer.config undue env shown hturn

lemma attentive_onto (layer : Layer ω ν α) (actual : Subscriber ω ν α) :
    (layer.onto actual).Attentive := by
  rintro signal ⟨session, below⟩ env
  rw [receive_onto]
  simp only [signalsAt_append, signalsAt_zero_ownMoments, signalsAt_zero_map_beneath,
    List.append_nil]

lemma signalsAt_succ_receive_onto (depth : ℕ) (signal : Signal α) (session : Session layer.State)
    (below : actual.State) (env : ω) :
    signalsAt (depth + 1) ((layer.onto actual).receive signal (session, below) env).trace
      = signalsAt depth (layer.passedOn actual signal session below env).trace := by
  rw [receive_onto]
  simp only [signalsAt_append, signalsAt_succ_ownMoments, signalsAt_succ_map_beneath,
    List.nil_append]

/-- What is heard below a layer in answer to one signal is heard of what its turn passes on. -/
lemma heard_receive_onto (hactual : actual.Attentive) (signal : Signal α)
    (session : Session layer.State) (below : actual.State) (env : ω) :
    Subscriber.Heard (layer.turn session signal env).exit.signals
      (signalsAt 1 ((layer.onto actual).receive signal (session, below) env).trace) := by
  rw [signalsAt_succ_receive_onto]
  exact Subscriber.heard_receiveAll hactual _ below _

lemma attentive_stack {S : Subscriber ω ν α} (hS : S.Attentive) :
    ∀ layers : List (Layer ω ν α), (stack layers S).Attentive
  | [] => hS
  | layer :: layers => attentive_onto layer (stack layers S)

/-- A layer without hooks. -/
def plain : Layer ω ν α := { State := Unit, hooks := .none, config := .standard }

end Layer

end SignalPeek
