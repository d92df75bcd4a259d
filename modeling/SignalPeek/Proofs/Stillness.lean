import Mathlib.Tactic.Common
import SignalPeek.Proofs.Conduct

/-!
# Calls change nothing in a stack

A request or a cancellation goes past the layers without a trace in them.  This is said in two ways.

**Without the calls.**  A consumer that makes no calls, but is otherwise the same, leaves every
layer with the same session: phase, parent and state (`twins_history`).

**At the calls.**  No call, be it of the consumer or of a layer, changes what is visible of a layer:
at the next moment all standings are what they were at the call (`still_history`).
-/

namespace SignalPeek

variable {ω ν α σ τ τ' : Type}

/-! ## Without the calls -/

/-- The consumer that does the same and makes no calls. -/
def Consumer.muted (C : Consumer α) : Consumer α where
  State := C.State
  init := C.init
  react signal state := { C.react signal state with calls := [] }

/-- Two outcomes that differ in what they show only. -/
structure Outcome.Echoes (outcome : Outcome ω ν α τ) (other : Outcome ω ν α τ')
    (Same : τ → τ' → Prop) : Prop where
  state : Same outcome.state other.state
  env : outcome.env = other.env
  escaped : outcome.escaped = other.escaped

namespace Subscriber

def Echoes (S S' : Subscriber ω ν α) (Same : S.State → S'.State → Prop) : Prop :=
  ∀ ⦃state state'⦄ (signal : Signal α) (env : ω), Same state state' →
    (S.receive signal state env).Echoes (S'.receive signal state' env) Same

lemma Echoes.receiveAll {S S' : Subscriber ω ν α} {Same : S.State → S'.State → Prop}
    (echoes : S.Echoes S' Same) (signals : List (Signal α)) {state : S.State} {state' : S'.State}
    (env : ω) (same : Same state state') :
    (S.receiveAll signals state env).Echoes (S'.receiveAll signals state' env) Same := by
  induction signals generalizing state state' env with
  | nil => exact ⟨same, rfl, rfl⟩
  | cons signal signals ih =>
      have first := echoes signal env same
      simp only [Subscriber.receiveAll]
      cases hescaped : (S.receive signal state env).escaped with
      | some fatal =>
          rw [Outcome.andThen_of_escaped hescaped,
            Outcome.andThen_of_escaped (first.escaped ▸ hescaped)]
          exact first
      | none =>
          rw [Outcome.andThen_of_not_escaped hescaped,
            Outcome.andThen_of_not_escaped (first.escaped ▸ hescaped), ← first.env]
          have rest := ih (S.receive signal state env).env first.state
          exact ⟨rest.state, rest.env, rest.escaped⟩

end Subscriber

namespace Consumer

def Same (C : Consumer α) (state : (C.subscriber : Subscriber ω ν α).State)
    (state' : (C.muted.subscriber : Subscriber ω ν α).State) : Prop :=
  Prod.fst state = Prod.fst state' ∧ Prod.snd state = Prod.snd state'

lemma echoes_muted (C : Consumer α) :
    (C.subscriber : Subscriber ω ν α).Echoes C.muted.subscriber C.Same := by
  rintro ⟨held, own⟩ ⟨held', own'⟩ signal env ⟨hheld, hown⟩
  obtain rfl : held = held' := hheld
  obtain rfl : own = own' := hown
  exact ⟨⟨rfl, rfl⟩, rfl, rfl⟩

end Consumer

namespace Layer

lemma echoes_onto (layer : Layer ω ν α) {S S' : Subscriber ω ν α}
    {Same : S.State → S'.State → Prop} (echoes : S.Echoes S' Same) :
    (layer.onto S).Echoes (layer.onto S') fun state state' =>
      layer.sessionOf S state = layer.sessionOf S' state'
        ∧ Same (Prod.snd state) (Prod.snd state') := by
  rintro ⟨session, below⟩ ⟨session', below'⟩ signal env ⟨hsession, same⟩
  obtain rfl : session = session' := hsession
  have passed := echoes.receiveAll (layer.turn session signal env).exit.signals
    (layer.turn session signal env).env same
  rw [receive_onto, receive_onto]
  exact ⟨⟨rfl, passed.state⟩, passed.env,
    congrArg ((layer.turn session signal env).exit.fatal?.or ·) passed.escaped⟩

/-- Two stacks of the same layers, where the second consumer is the one that makes no calls: every
layer has the same session in both. -/
def Twins (C : Consumer α) : (layers : List (Layer ω ν α)) → (stack layers C.subscriber).State →
    (stack layers C.muted.subscriber).State → Prop
  | [] => C.Same
  | layer :: layers => fun state state' =>
    layer.sessionOf (stack layers C.subscriber) state
        = layer.sessionOf (stack layers C.muted.subscriber) state'
      ∧ Twins C layers (Prod.snd state) (Prod.snd state')

lemma echoes_stack (C : Consumer α) : ∀ layers : List (Layer ω ν α),
    (stack layers C.subscriber).Echoes (stack layers C.muted.subscriber) (Twins C layers)
  | [] => C.echoes_muted
  | layer :: layers => layer.echoes_onto (echoes_stack C layers)

lemma twins_init (C : Consumer α) : ∀ layers : List (Layer ω ν α),
    Twins C layers (stack layers C.subscriber).init (stack layers C.muted.subscriber).init
  | [] => ⟨rfl, rfl⟩
  | _ :: layers => ⟨rfl, twins_init C layers⟩

end Layer

def Stimulus.isSignal : Stimulus α → Bool
  | .signal _ => true
  | .call _ => false

/-- **Calls leave the sessions alone.**  Without any calls of the consumer, within signals or
between them, every layer ends in the same session, and so does what hooks share. -/
theorem Layer.twins_history (C : Consumer α) (layers : List (Layer ω ν α))
    (stimuli : List (Stimulus α)) (env : ω) :
    let run := (stack layers C.subscriber).history stimuli env
    let muted := (stack layers C.muted.subscriber).history (stimuli.filter Stimulus.isSignal) env
    Twins C layers run.state muted.state ∧ run.env = muted.env := by
  induction stimuli using List.reverseRecOn with
  | nil => exact ⟨twins_init C layers, rfl⟩
  | append_singleton past stimulus ih =>
      obtain ⟨twins, henv⟩ := ih
      intro run muted
      cases stimulus with
      | call call =>
          have hrun : run = _ := Subscriber.history_concat _ past (.call call) env
          have hmuted : muted = (stack layers C.muted.subscriber).history
              (past.filter Stimulus.isSignal) env := by
            simp [muted, List.filter_append, Stimulus.isSignal]
          rw [hrun, hmuted]
          exact ⟨twins, henv⟩
      | signal signal =>
          have hrun : run = _ := Subscriber.history_concat _ past (.signal signal) env
          have hfilter : (past ++ [Stimulus.signal signal]).filter Stimulus.isSignal
              = past.filter Stimulus.isSignal ++ [.signal signal] := by
            simp [List.filter_append, Stimulus.isSignal]
          have hmuted : muted = ((stack layers C.muted.subscriber).history
                (past.filter Stimulus.isSignal) env).extend
              ((stack layers C.muted.subscriber).after (past.filter Stimulus.isSignal)
                (.signal signal) env) := by
            simp only [muted, hfilter, Subscriber.history_concat]
          have step := echoes_stack C layers signal
            ((stack layers C.subscriber).history past env).env twins
          rw [hrun, hmuted]
          simp only [Run.extend, Subscriber.after, Subscriber.respond, ← henv]
          exact ⟨step.state, step.env⟩

/-! ## At the calls -/

def Event.isCall : Event ν α → Bool
  | .called _ _ => true
  | _ => false

/-- The standings at the beginning of a trace that ends with the given ones. -/
def standingsAhead (final : List Standing) : List (Moment ν α) → List Standing
  | [] => final
  | moment :: _ => moment.standings

/-- At every call of a trace, which ends with the given standings, the standings are those of the
next moment. -/
def Steady (final : List Standing) : List (Moment ν α) → Prop
  | [] => True
  | moment :: trace =>
    (moment.event.isCall = true → standingsAhead final trace = moment.standings)
      ∧ Steady final trace

/-- A steady trace between standings. -/
structure Still (before after : List Standing) (trace : List (Moment ν α)) : Prop where
  begins : standingsAhead after trace = before
  steady : Steady after trace

lemma steady_of_no_call {final : List Standing} {trace : List (Moment ν α)}
    (h : ∀ moment ∈ trace, moment.event.isCall = false) : Steady final trace := by
  induction trace with
  | nil => trivial
  | cons moment trace ih =>
      obtain ⟨hmoment, htrace⟩ := List.forall_mem_cons.mp h
      exact ⟨fun hcall => by simp [hmoment] at hcall, ih htrace⟩

namespace Still

lemma nil (standings : List Standing) : Still standings standings ([] : List (Moment ν α)) :=
  ⟨rfl, trivial⟩

lemma append {before between after : List Standing} {first second : List (Moment ν α)}
    (hfirst : Still before between first) (hsecond : Still between after second) :
    Still before after (first ++ second) := by
  obtain ⟨rfl, hsteady⟩ := hsecond
  induction first generalizing before with
  | nil =>
      obtain ⟨rfl, _⟩ := hfirst
      exact ⟨rfl, hsteady⟩
  | cons moment first ih =>
      obtain ⟨rfl, hcall, hrest⟩ := hfirst
      have later := ih ⟨rfl, hrest⟩
      exact ⟨rfl, fun h => later.begins.trans (hcall h), later.steady⟩

lemma beneath {before after : List Standing} {trace : List (Moment ν α)}
    (h : Still before after trace) (above : Standing) :
    Still (above :: before) (above :: after) (trace.map (·.beneath above)) := by
  induction trace generalizing before with
  | nil =>
      obtain ⟨rfl, _⟩ := h
      exact nil _
  | cons moment trace ih =>
      obtain ⟨rfl, hcall, hrest⟩ := h
      have later := ih ⟨rfl, hrest⟩
      exact ⟨rfl, fun h => later.begins.trans (congrArg (above :: ·) (hcall h)), later.steady⟩

lemma const {standings : List Standing} {trace : List (Moment ν α)}
    (h : ∀ moment ∈ trace, moment.standings = standings) : Still standings standings trace := by
  induction trace with
  | nil => exact nil standings
  | cons moment trace ih =>
      obtain ⟨rfl, htrace⟩ := List.forall_mem_cons.mp h
      have later := ih htrace
      exact ⟨rfl, fun _ => later.begins, later.steady⟩

end Still

namespace Subscriber

/-- Whatever is sent to it, the subscriber is still at every call. -/
def IsStill (S : Subscriber ω ν α) : Prop :=
  ∀ signal state env, Still (S.standings state) (S.standings (S.receive signal state env).state)
    (S.receive signal state env).trace

lemma IsStill.receiveAll {S : Subscriber ω ν α} (still : S.IsStill) (signals : List (Signal α))
    (state : S.State) (env : ω) :
    Still (S.standings state) (S.standings (S.receiveAll signals state env).state)
      (S.receiveAll signals state env).trace := by
  refine receiveAll_induction
    (motive := fun _ state outcome =>
      Still (S.standings state) (S.standings outcome.state) outcome.trace)
    ?nil ?stop ?go signals state env
  case nil => exact fun _ _ => .nil _
  case stop =>
    intro signal _ state env _ _
    exact still signal state env
  case go =>
    intro signal _ state env rest _ ih
    exact (still signal state env).append ih

end Subscriber

lemma Consumer.isStill (C : Consumer α) : (C.subscriber : Subscriber ω ν α).IsStill := by
  rintro signal ⟨held, own⟩ env
  rw [C.receive_eq]
  exact .const (List.forall_mem_map.mpr fun event _ => rfl)

namespace Layer

/-- A turn is still: a layer ends before it cancels its parent. -/
lemma still_conduct {hooks : Hooks ω ν α σ} {config : Config} {session session' : Session σ}
    {signal : Signal α} {events : List (Standing × Event ν α)} {exit : Exit α}
    (conduct : Conduct hooks config session signal events session' exit) (below : List Standing) :
    Still (session.standing :: below) (session'.standing :: below)
      (moments below ((session.standing, .received signal) :: events)) := by
  cases conduct with
  | refused undue =>
      refine .const (List.forall_mem_map.mpr (List.forall_mem_cons.mpr ⟨rfl, ?_⟩))
      exact List.forall_mem_map.mpr fun event _ => rfl
  | passed due note there state =>
      refine ⟨rfl, steady_of_no_call (List.forall_mem_map.mpr (List.forall_mem_cons.mpr ⟨rfl, ?_⟩))⟩
      exact List.forall_mem_map.mpr (List.forall_mem_map.mpr fun note _ => rfl)
  | @replaced parent due note failure error fails route state =>
      -- The standing changes after the hook run, which is no call, and before the withdrawal.
      have hran : Still (session.standing :: below) (Session.endedStanding parent :: below)
          (moments below [(session.standing, .received signal),
            (session.watching parent, .hook (signal.run (some failure) note))]) :=
        ⟨rfl, steady_of_no_call (by simp [moments, Event.isCall])⟩
      have hended : Still (Session.endedStanding parent :: below)
          (Session.endedStanding parent :: below)
          (moments below (Session.under (Session.endedStanding parent)
            (.notice config.name (signal.failureNotice error) :: signal.withdrawal parent
              : List (Event ν α)))) :=
        .const (List.forall_mem_map.mpr (List.forall_mem_map.mpr fun event _ => rfl))
      exact hran.append hended
  | escaped due note fails route state =>
      exact ⟨rfl, steady_of_no_call (by simp [moments, Session.under, Event.isCall])⟩

lemma isStill_onto (layer : Layer ω ν α) {actual : Subscriber ω ν α} (still : actual.IsStill) :
    (layer.onto actual).IsStill := by
  rintro signal ⟨session, below⟩ env
  have own := still_conduct (layer.conduct session signal env) (actual.standings below)
  have passed := still.receiveAll (layer.turn session signal env).exit.signals below
    (layer.turn session signal env).env
  rw [receive_onto]
  exact own.append (passed.beneath _)

lemma isStill_stack (C : Consumer α) : ∀ layers : List (Layer ω ν α),
    (stack layers C.subscriber).IsStill
  | [] => C.isStill
  | layer :: layers => layer.isStill_onto (isStill_stack C layers)

end Layer

lemma Subscriber.still_respond {S : Subscriber ω ν α} (still : S.IsStill) (stimulus : Stimulus α)
    (state : S.State) (env : ω) :
    Still (S.standings state) (S.standings (S.respond stimulus state env).state)
      (S.respond stimulus state env).trace := by
  cases stimulus with
  | signal signal => exact still signal state env
  | call call =>
      simp only [respond, call?]
      cases S.handle state with
      | none => exact .nil _
      | some held => exact .const (List.forall_mem_map.mpr fun event _ => rfl)

/-- **Every call leaves all standings as they are**, in every run. -/
theorem Subscriber.still_history {S : Subscriber ω ν α} (still : S.IsStill)
    (stimuli : List (Stimulus α)) (env : ω) :
    Still (S.standings S.init) (S.standings (S.history stimuli env).state)
      (S.history stimuli env).trace := by
  refine S.run_induction
    (motive := fun _ run => Still (S.standings S.init) (S.standings run.state) run.trace)
    (.nil _) ?step stimuli
  case step =>
    intro past run stimulus ih
    exact ih.append (still_respond still stimulus run.state run.env)

end SignalPeek
