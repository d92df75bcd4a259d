import Mathlib.Tactic.Common
import SignalPeek.Proofs.Reception
import SignalPeek.Proofs.Run

/-!
# Layers in concert

The layers of a stack end one by one, and a layer in the middle may end while those above it go on.
Yet as long as no fatal error escapes they keep together: all have begun or none has, below an ended
layer there are ended ones only, and the consumer was told of the end exactly when the last layer
has ended (`concerted_history`).

**Leading.**  All that a subscriber learns of the layer above it are the signals that the layer
passes on.  Read as steps of a phase (`Lead`), they always take the phase that the layer had to the
one that it has now (`Passage.led`), also where a failed seed makes two signals out of one.

**Following.**  A layer follows what is above it if it begins with it and has ended when that has
(`Phase.Leads`); it is free to end earlier.  A consumer has no end of its own, so it follows only if
it was told of the end once in case the last layer has ended, and never otherwise.  `Layer.Follows`
goes down a stack with this, and every step of the phase above is followed
(`obedient_stack`).
-/

namespace SignalPeek

variable {ω ν α σ : Type}

/-- The phases of the layers that belong to a subscriber, the first layer in front. -/
def Subscriber.phases (S : Subscriber ω ν α) (state : S.State) : List Phase :=
  (S.probes state).map Probe.phase

/-- The phase above steps on with a signal that comes from there. -/
inductive Lead : Phase → Signal α → Phase → Prop where
  | begins (subscription : Subscription) : Lead .init (.subscribe subscription) .active
  | goesOn (item : α) : Lead .active (.next item) .active
  | ends {last : Signal α} (terminal : last.isTerminal = true) : Lead .active last .terminated

/-- The phase above steps on with each of the signals in turn. -/
inductive Led : Phase → List (Signal α) → Phase → Prop where
  | rest (phase : Phase) : Led phase [] phase
  | step {phase phase' phase'' : Phase} {signal : Signal α} {signals : List (Signal α)}
      (lead : Lead phase signal phase') (led : Led phase' signals phase'') :
      Led phase (signal :: signals) phase''

/-- A layer in the second phase keeps to what is above it, in the first. -/
structure Phase.Leads (above below : Phase) : Prop where
  begun : above = .init ↔ below = .init
  ended : above = .terminated → below = .terminated

/-- **The signals tell the phase**: those that a passage passes on lead from the phase before it to
the phase after it. -/
lemma Passage.led {session session' : Session σ} {signal : Signal α} {signals : List (Signal α)}
    (passage : Passage session signal session' (.forward signals)) :
    Led session.phase signals session'.phase := by
  cases passage with
  | refused undue => exact .rest _
  | seeded parent state => exact .step (.begins _) (.rest _)
  | unseeded parent error => exact .step (.begins _) (.step (.ends rfl) (.rest _))
  | item parent state state' item => exact .step (.goesOn item) (.rest _)
  | ended parent state state' due terminal => exact .step (.ends terminal) (.rest _)

lemma Lead.accepts {phase phase' : Phase} {signal : Signal α} (lead : Lead phase signal phase')
    {session : Session σ} (h : session.phase = phase) : session.accepts signal = true := by
  cases session with
  | fresh =>
      subst h
      cases lead with
      | begins subscription => rfl
  | active parent state =>
      subst h
      cases lead with
      | goesOn item => rfl
      | ends terminal => cases signal <;> first | rfl | simp [Signal.isTerminal] at terminal
  | terminated parent state =>
      subst h
      cases lead

/-- **A passage keeps to the phase above**, which steps on with the very signal that it answers. -/
lemma Passage.leads {session session' : Session σ} {signal : Signal α} {exit : Exit α}
    (passage : Passage session signal session' exit) {phase phase' : Phase}
    (lead : Lead phase signal phase') (leads : phase.Leads session.phase) :
    phase'.Leads session'.phase := by
  cases passage with
  | refused undue =>
      -- Only a session that has ended before its time refuses a signal that leads on.
      have hne : session.phase ≠ phase := fun h => by simp [lead.accepts h] at undue
      cases lead with
      | begins _ => exact absurd (leads.begun.mp rfl) hne
      | goesOn _ => exact leads
      | ends _ =>
          refine ⟨by simpa using leads.begun, fun _ => ?_⟩
          cases hphase : session.phase with
          | init => exact absurd (leads.begun.mpr hphase) (by simp)
          | active => exact absurd hphase hne
          | terminated => rfl
  | escaped due parent state fatal => cases lead <;> constructor <;> simp [Session.phase]
  | seeded parent state =>
      cases lead with
      | begins _ => constructor <;> simp [Session.phase]
      | ends terminal => simp [Signal.isTerminal] at terminal
  | unseeded parent error =>
      cases lead with
      | begins _ => constructor <;> simp [Session.phase]
      | ends terminal => simp [Signal.isTerminal] at terminal
  | item parent state state' item =>
      cases lead with
      | goesOn _ => constructor <;> simp [Session.phase]
      | ends terminal => simp [Signal.isTerminal] at terminal
  | ended parent state state' due terminal => cases lead <;> constructor <;> simp [Session.phase]

namespace Subscriber

/-- A relation between the phase above, the state, and the signals heard at some depth below is kept
by every step of the phase after which nothing escapes. -/
def Obedient (S : Subscriber ω ν α) (depth : ℕ)
    (Keeps : Phase → S.State → List (Signal α) → Prop) : Prop :=
  ∀ {phase phase' : Phase} {signal : Signal α} {state : S.State} {heard : List (Signal α)}
    {env : ω}, Lead phase signal phase' → Keeps phase state heard →
      (S.receive signal state env).escaped = none →
      Keeps phase' (S.receive signal state env).state
        (heard ++ signalsAt depth (S.receive signal state env).trace)

lemma Obedient.receiveAll {S : Subscriber ω ν α} {depth : ℕ}
    {Keeps : Phase → S.State → List (Signal α) → Prop} (obedient : S.Obedient depth Keeps)
    {phase phase' : Phase} {signals : List (Signal α)} (led : Led phase signals phase')
    {state : S.State} {heard : List (Signal α)} {env : ω} (keeps : Keeps phase state heard)
    (calm : (S.receiveAll signals state env).escaped = none) :
    Keeps phase' (S.receiveAll signals state env).state
      (heard ++ signalsAt depth (S.receiveAll signals state env).trace) := by
  induction led generalizing state heard env with
  | rest phase => simpa [Subscriber.receiveAll, Outcome.idle, signalsAt] using keeps
  | @step phase phase' phase'' signal signals lead led ih =>
      cases hescaped : (S.receive signal state env).escaped with
      | some fatal =>
          rw [Subscriber.receiveAll, Outcome.andThen_of_escaped hescaped, hescaped] at calm
          simp at calm
      | none =>
          rw [Subscriber.receiveAll, Outcome.andThen_of_not_escaped hescaped] at calm ⊢
          simp only [Outcome.precededBy, signalsAt_append, ← List.append_assoc] at calm ⊢
          exact ih (obedient lead keeps hescaped) calm

end Subscriber

namespace Layer

section Onto

variable {layer : Layer ω ν α} {actual : Subscriber ω ν α} {depth : ℕ}
  {Keeps : Phase → actual.State → List (Signal α) → Prop}

/-- Nothing escapes from a layer exactly when its turn passes signals on and nothing escapes from
below. -/
lemma escaped_receive_onto_eq_none {signal : Signal α} {session : Session layer.State}
    {below : actual.State} {env : ω} :
    ((layer.onto actual).receive signal (session, below) env).escaped = none
      ↔ (layer.turn session signal env).exit
            = .forward (layer.turn session signal env).exit.signals
        ∧ (layer.passedOn actual signal session below env).escaped = none := by
  rw [receive_onto]
  cases hexit : (layer.turn session signal env).exit with
  | forward signals => simp [Exit.fatal?, Exit.signals]
  | escape fatal => simp [Exit.fatal?]

/-- What is below a layer keeps to it through any signal, whether it is due or not. -/
lemma keeps_receive_onto (obedient : actual.Obedient depth Keeps) {signal : Signal α}
    {session : Session layer.State} {below : actual.State} {heard : List (Signal α)} {env : ω}
    (keeps : Keeps session.phase below heard)
    (calm : ((layer.onto actual).receive signal (session, below) env).escaped = none) :
    let outcome := (layer.onto actual).receive signal (session, below) env
    Keeps (layer.sessionOf actual outcome.state).phase (Prod.snd outcome.state)
      (heard ++ signalsAt (depth + 1) outcome.trace) := by
  obtain ⟨hexit, hescaped⟩ := escaped_receive_onto_eq_none.mp calm
  have passage := layer.passage session signal env
  rw [hexit] at passage
  have hkept := obedient.receiveAll passage.led keeps hescaped
  intro outcome
  rw [signalsAt_succ_receive_onto, show outcome = _ from receive_onto signal session below env]
  exact hkept

/-- The relation for a layer: it keeps to what is above it, and what is below keeps to the layer. -/
def Following (layer : Layer ω ν α) (actual : Subscriber ω ν α)
    (Keeps : Phase → actual.State → List (Signal α) → Prop) (phase : Phase)
    (state : (layer.onto actual).State) (heard : List (Signal α)) : Prop :=
  phase.Leads (layer.sessionOf actual state).phase
    ∧ Keeps (layer.sessionOf actual state).phase (Prod.snd state) heard

lemma obedient_onto (obedient : actual.Obedient depth Keeps) :
    (layer.onto actual).Obedient (depth + 1) (layer.Following actual Keeps) := by
  rintro phase phase' signal ⟨session, below⟩ heard env lead ⟨leads, keeps⟩ calm
  have passage := layer.passage session signal env
  have hkept := keeps_receive_onto obedient keeps calm
  refine ⟨?_, hkept⟩
  rw [receive_onto]
  exact passage.leads lead leads

end Onto

/-- The layers of a stack follow a phase above them, and so does the consumer at the end. -/
def Follows (C : Consumer α) : (layers : List (Layer ω ν α)) → Phase →
    (stack layers C.subscriber).State → List (Signal α) → Prop
  | [], phase, _, heard =>
      heard.countP Signal.isTerminal = if phase = .terminated then 1 else 0
  | layer :: layers, phase, state, heard =>
      layer.Following (stack layers C.subscriber) (Follows C layers) phase state heard

/-- A consumer hears each signal once, so it hears of the end once. -/
lemma obedient_consumer (C : Consumer α) :
    (C.subscriber : Subscriber ω ν α).Obedient 0 (Follows C []) := by
  intro phase phase' signal state heard env lead follows _
  simp only [Follows] at follows ⊢
  rw [C.attentive, List.countP_append, follows]
  cases lead with
  | begins subscription => rfl
  | goesOn item => rfl
  | ends terminal => simp [terminal]

/-- **Every step of the phase above is followed**, through any number of layers. -/
theorem obedient_stack (C : Consumer α) : ∀ layers : List (Layer ω ν α),
    (stack layers C.subscriber).Obedient layers.length (Follows C layers)
  | [] => obedient_consumer C
  | _ :: layers => obedient_onto (obedient_stack C layers)

lemma follows_init (C : Consumer α) : ∀ layers : List (Layer ω ν α),
    Follows C layers .init (stack layers C.subscriber).init []
  | [] => rfl
  | _ :: layers => ⟨⟨Iff.rfl, id⟩, follows_init C layers⟩

/-! ## What following comes to -/

lemma Follows.begun {C : Consumer α} {layers : List (Layer ω ν α)} {phase : Phase}
    {state : (stack layers C.subscriber).State} {heard : List (Signal α)}
    (follows : Follows C layers phase state heard) :
    ∀ below ∈ (stack layers C.subscriber).phases state, phase = .init ↔ below = .init := by
  induction layers generalizing phase with
  | nil => simp [Subscriber.phases, stack, Consumer.subscriber]
  | cons layer layers ih =>
      obtain ⟨leads, follows⟩ := follows
      refine List.forall_mem_cons.mpr ⟨leads.begun, fun below h => ?_⟩
      exact leads.begun.trans (ih follows below h)

lemma Follows.ended {C : Consumer α} {layers : List (Layer ω ν α)} {phase : Phase}
    {state : (stack layers C.subscriber).State} {heard : List (Signal α)}
    (follows : Follows C layers phase state heard) :
    (phase :: (stack layers C.subscriber).phases state).Pairwise
      fun above below => above = .terminated → below = .terminated := by
  induction layers generalizing phase with
  | nil => exact List.pairwise_singleton _ _
  | cons layer layers ih =>
      obtain ⟨leads, follows⟩ := follows
      have hbelow := ih follows
      refine List.pairwise_cons.mpr ⟨List.forall_mem_cons.mpr ⟨leads.ended, ?_⟩, hbelow⟩
      intro below h hended
      exact List.rel_of_pairwise_cons hbelow h (leads.ended hended)

/-- The consumer was told of the end once if the last of the layers that it follows has ended. -/
lemma Follows.told {C : Consumer α} {layers : List (Layer ω ν α)} {phase : Phase}
    {state : (stack layers C.subscriber).State} {heard : List (Signal α)}
    (follows : Follows C layers phase state heard) :
    heard.countP Signal.isTerminal
      = if (phase :: (stack layers C.subscriber).phases state).getLast? = some .terminated
        then 1 else 0 := by
  induction layers generalizing phase with
  | nil =>
      rw [show heard.countP Signal.isTerminal = if phase = .terminated then 1 else 0 from follows]
      simp [Subscriber.phases, stack, Consumer.subscriber]
  | cons layer layers ih =>
      obtain ⟨_, follows⟩ := follows
      rw [ih follows]
      rfl

/-! ## Runs in which nothing escapes -/

lemma follows_history (layer : Layer ω ν α) (layers : List (Layer ω ν α)) (C : Consumer α)
    (stimuli : List (Stimulus α)) (env : ω)
    (calm : ((stack (layer :: layers) C.subscriber).history stimuli env).Calm) :
    Follows C layers
      (layer.sessionOf (stack layers C.subscriber)
        ((stack (layer :: layers) C.subscriber).history stimuli env).state).phase
      (Prod.snd ((stack (layer :: layers) C.subscriber).history stimuli env).state)
      (signalsAt (layers.length + 1)
        ((stack (layer :: layers) C.subscriber).history stimuli env).trace) := by
  refine (stack (layer :: layers) C.subscriber).run_induction
    (motive := fun _ run => run.Calm → Follows C layers
      (layer.sessionOf (stack layers C.subscriber) run.state).phase (Prod.snd run.state)
      (signalsAt (layers.length + 1) run.trace)) ?start ?step stimuli calm
  case start => exact fun _ => follows_init C layers
  case step =>
    intro past run stimulus ih calm
    obtain ⟨hpast, hescaped⟩ := Run.calm_extend.mp calm
    have follows := ih hpast
    simp only [Run.extend, signalsAt_append]
    cases stimulus with
    | signal signal => exact keeps_receive_onto (obedient_stack C layers) follows hescaped
    | call call =>
        simp only [Subscriber.signalsAt_respond_call, List.append_nil]
        exact follows

/-- What the phases of a stack and the signals that the consumer heard have to do with each other.
-/
structure Concerted (phases : List Phase) (heard : List (Signal α)) : Prop where
  /-- All layers have begun, or none has. -/
  together : (∀ phase ∈ phases, phase = .init) ∨ ∀ phase ∈ phases, phase ≠ .init
  /-- Below an ended layer all layers have ended. -/
  downward : phases.Pairwise fun above below => above = .terminated → below = .terminated
  /-- The consumer was told of the end once if the last layer has ended, and else never. -/
  told : heard.countP Signal.isTerminal = if phases.getLast? = some .terminated then 1 else 0

lemma Concerted.ended {phases : List Phase} {heard : List (Signal α)}
    (concerted : Concerted phases heard) (h : phases.head? = some .terminated) :
    (∀ phase ∈ phases, phase = .terminated) ∧ heard.countP Signal.isTerminal = 1 := by
  obtain ⟨rest, rfl⟩ := List.head?_eq_some_iff.mp h
  have hall : ∀ phase ∈ Phase.terminated :: rest, phase = .terminated :=
    List.forall_mem_cons.mpr
      ⟨rfl, fun phase hmem => List.rel_of_pairwise_cons concerted.downward hmem rfl⟩
  have hlast : (Phase.terminated :: rest).getLast? = some .terminated := by
    rw [List.getLast?_eq_some_getLast (List.cons_ne_nil _ _),
      hall _ (List.getLast_mem (List.cons_ne_nil _ _))]
  exact ⟨hall, by rw [concerted.told, if_pos hlast]⟩

lemma concerted_of_calm (layer : Layer ω ν α) (layers : List (Layer ω ν α)) (C : Consumer α)
    (stimuli : List (Stimulus α)) (env : ω)
    (calm : ((stack (layer :: layers) C.subscriber).history stimuli env).Calm) :
    Concerted
      ((stack (layer :: layers) C.subscriber).phases
        ((stack (layer :: layers) C.subscriber).history stimuli env).state)
      (signalsAt (layers.length + 1)
        ((stack (layer :: layers) C.subscriber).history stimuli env).trace) := by
  have follows := follows_history layer layers C stimuli env calm
  refine ⟨?_, follows.ended, follows.told⟩
  by_cases hinit : (layer.sessionOf (stack layers C.subscriber)
      ((stack (layer :: layers) C.subscriber).history stimuli env).state).phase = .init
  · exact Or.inl (List.forall_mem_cons.mpr
      ⟨hinit, fun below h => (follows.begun below h).mp hinit⟩)
  · exact Or.inr (List.forall_mem_cons.mpr
      ⟨hinit, fun below h => mt (follows.begun below h).mpr hinit⟩)

/-- A terminal signal ends an active layer, however its hook takes it. -/
lemma head?_phases_of_terminal {layer : Layer ω ν α} {actual : Subscriber ω ν α}
    {last : Signal α} (terminal : last.isTerminal = true) {state : (layer.onto actual).State}
    {env : ω} (active : ((layer.onto actual).phases state).head? = some .active) :
    ((layer.onto actual).phases ((layer.onto actual).receive last state env).state).head?
      = some .terminated := by
  obtain ⟨session, below⟩ := state
  have hactive : session.phase = .active := by
    simpa [Subscriber.phases, onto, Session.probe] using active
  have passage := layer.passage session last env
  have leads := passage.leads (.ends terminal) (hactive ▸ ⟨Iff.rfl, id⟩)
  rw [receive_onto]
  exact congrArg some (leads.ended rfl)

/-- **Layers end in concert.**  As long as nothing escapes from the signals that are sent to the
first layer of a stack, due or not, all layers have begun or none has, every layer below an ended
one has ended, and the consumer was told of the end exactly once if the last layer has ended and
never otherwise.  So a terminal signal that finds the first layer active ends them all, and the
consumer is told so once. -/
theorem concerted_history (layer : Layer ω ν α) (layers : List (Layer ω ν α)) (C : Consumer α)
    (stimuli : List (Stimulus α)) (env : ω) :
    let S := stack (layer :: layers) C.subscriber
    let run := S.history stimuli env
    let heard := signalsAt (layers.length + 1) run.trace
    run.Calm →
      Concerted (S.phases run.state) heard
        ∧ ∀ past last, stimuli = past ++ [.signal last] → last.isTerminal = true →
            (S.phases (S.history past env).state).head? = some .active →
              (∀ phase ∈ S.phases run.state, phase = .terminated)
                ∧ heard.countP Signal.isTerminal = 1 := by
  intro S run heard calm
  have concerted : Concerted (S.phases run.state) heard :=
    concerted_of_calm layer layers C stimuli env calm
  refine ⟨concerted, ?_⟩
  rintro past last rfl terminal active
  refine concerted.ended ?_
  have hrun : run = _ := S.run_concat past (.signal last) S.init env
  rw [hrun]
  exact head?_phases_of_terminal terminal active

/-- A layer that fails over every item. -/
def balking (note : ν) (cause : Cause) : Layer ω ν α where
  State := Unit
  hooks := { (Hooks.none : Hooks ω ν α Unit) with
    next := some fun _ _ env => { effect := id, failure := some (.recoverable cause), note, env } }
  config := .standard

/-- The layer in the middle fails over an item and ends together with the one below it, and the
layer above it goes on until the stream ends. -/
theorem concerted_around_balking :
    let S : Subscriber Unit Unit ℕ :=
      stack [plain, balking () (.mk 0 (.message "stop")), plain] (Consumer.asking 0).subscriber
    let past : List (Stimulus ℕ) := [.signal (.subscribe (.direct 0)), .signal (.next 1)]
    let run := S.history (past ++ [.signal .complete]) ()
    let heard := signalsAt 3 run.trace
    S.phases (S.history past ()).state = [.active, .terminated, .terminated]
      ∧ run.Calm
      ∧ Concerted (S.phases run.state) heard
      ∧ (∀ phase ∈ S.phases run.state, phase = .terminated)
      ∧ heard.countP Signal.isTerminal = 1 := by
  intro S past run heard
  have calm : run.Calm := by
    intro result h
    have hresults : run.results = [none, none, none] := rfl
    simpa [hresults] using h
  have concert := concerted_history plain [balking () (.mk 0 (.message "stop")), plain]
    (Consumer.asking 0) (past ++ [.signal .complete]) () calm
  exact ⟨rfl, calm, concert.1, concert.2 past .complete rfl rfl rfl⟩

end Layer

end SignalPeek
