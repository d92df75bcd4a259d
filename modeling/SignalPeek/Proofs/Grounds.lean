import Mathlib.Tactic.Common
import SignalPeek.Proofs.Conduct

/-!
# Grounds for calls

Every call that goes towards the source has one of three grounds.  The consumer makes it on its
handle, the hook for items failed at some layer, or a subscription was offered to a first layer that
has one already.

**Reading grounds off a trace.**  A failure shows in the hook run.  What the consumer asks for is
what it answers to each signal that it is given, in the state that it has come to by then
(`Consumer.grounds`).  Its calls need not reach anything, so they are not read off the calls of the
trace; that the two agree is what is to be proved (`Explains`).

**Where calls end up.**  The calls of the consumer go where its handle leads, and the calls of the
layers where the first layer's parent leads.  That these are the same channel, as long as no seed
failed, is carried from layer to layer by the relays: when a stack is subscribed to, the handle
leads to the channel of the subscription unless a seed failed, and every layer that is active is
wired to this channel (`opens_stack`).  All other signals leave the handle and the wiring as they
are (`routes_stack`).
-/

namespace SignalPeek

variable {ω ν α σ : Type}

/-- A reason for a call towards the source. -/
inductive Ground where
  /-- The consumer makes the call on its handle. -/
  | asked (call : Call)
  /-- The hook for items failed recoverably. -/
  | failure
  /-- A further subscription came. -/
  | refused (subscription : Subscription)
  deriving DecidableEq

/-- The call on a channel that a ground leads to, where the consumer's handle leads to the channel
`handle` and the parent of the first layer to the channel `parent`. -/
def Ground.call? (handle parent : Option ℕ) (channel : ℕ) : Ground → Option Call
  | .asked call => if handle = some channel then some call else none
  | .failure => if parent = some channel then some .cancel else none
  | .refused subscription => if subscription.channel? = some channel then some .cancel else none

def leadsTo? (held : Option Subscription) : Option ℕ := held.bind Subscription.channel?

/-! ## Grounds in a trace -/

/-- A hook for items that failed recoverably. -/
def HookRun.withdraws (run : HookRun ν α) : Bool :=
  run.occasion.kind == .next && run.failure.any (·.severity == .recoverable)

/-- A seed that failed, recoverably or for good. -/
def HookRun.isVoid (run : HookRun ν α) : Bool :=
  run.occasion.kind == .subscribe && run.failure.isSome

def Event.ground? (event : Event ν α) : Option Ground :=
  event.hookRun?.bind fun run => if run.withdraws then some .failure else none

def Event.callTo? (channel : ℕ) : Event ν α → Option Call
  | .called p call => if p = channel then some call else none
  | _ => none

@[simp] lemma Event.callTo?_hook (channel : ℕ) (run : HookRun ν α) :
    (Event.hook run).callTo? channel = none := rfl

@[simp] lemma Event.callTo?_notice (channel : ℕ) (operator : String) (notice : Notice) :
    (Event.notice operator notice : Event ν α).callTo? channel = none := rfl

/-- Some seed failed in the course of a trace. -/
def seedFailed (trace : List (Moment ν α)) : Bool :=
  (trace.filterMap (·.event.hookRun?)).any HookRun.isVoid

namespace Consumer

variable (C : Consumer α)

/-- What a consumer knows: the subscription that it holds, and its own state. -/
abbrev Mind : Type := Option Subscription × C.State

def afterAll (signals : List (Signal α)) (mind : C.Mind) : C.Mind :=
  signals.foldl (fun mind signal => (holding signal mind.1, (C.react signal mind.2).state)) mind

/-- The calls that a consumer makes on its handle when a signal arrives. -/
def asks (signal : Signal α) (mind : C.Mind) : List Ground :=
  match holding signal mind.1 with
  | some _ => (C.react signal mind.2).calls.map .asked
  | none => []

/-- The grounds for calls in the course of a trace, where the consumer comes after so many layers
and knows this much at the beginning. -/
def grounds (depth : ℕ) : C.Mind → List (Moment ν α) → List Ground
  | _, [] => []
  | mind, moment :: trace =>
    match moment.signalAt? depth with
    | some signal => C.asks signal mind ++ grounds depth (C.afterAll [signal] mind) trace
    | none => moment.event.ground?.toList ++ grounds depth mind trace

variable {C}

lemma afterAll_append (first second : List (Signal α)) (mind : C.Mind) :
    C.afterAll (first ++ second) mind = C.afterAll second (C.afterAll first mind) :=
  List.foldl_append

lemma grounds_append (depth : ℕ) (mind : C.Mind) (first second : List (Moment ν α)) :
    C.grounds depth mind (first ++ second)
      = C.grounds depth mind first
        ++ C.grounds depth (C.afterAll (signalsAt depth first) mind) second := by
  induction first generalizing mind with
  | nil => rfl
  | cons moment first ih =>
      simp only [List.cons_append, grounds, signalsAt]
      cases hsignal : moment.signalAt? depth with
      | none =>
          rw [List.filterMap_cons_none hsignal]
          simp only [ih, List.append_assoc, signalsAt]
      | some signal =>
          rw [List.filterMap_cons_some hsignal]
          simp only [ih, List.append_assoc]
          rfl

@[simp] lemma grounds_succ_map_beneath (depth : ℕ) (mind : C.Mind) (above : Standing)
    (trace : List (Moment ν α)) :
    C.grounds (depth + 1) mind (trace.map (·.beneath above)) = C.grounds depth mind trace := by
  induction trace generalizing mind with
  | nil => rfl
  | cons moment trace ih =>
      simp only [List.map_cons, grounds, Moment.signalAt?_succ_beneath, ih]
      rfl

/-- Where the consumer is given nothing, there are no grounds but failures. -/
lemma grounds_of_signalsAt_eq_nil {depth : ℕ} {mind : C.Mind} {trace : List (Moment ν α)}
    (h : signalsAt depth trace = []) :
    C.grounds depth mind trace = trace.filterMap (·.event.ground?) := by
  induction trace with
  | nil => rfl
  | cons moment trace ih =>
      have hmoment := List.filterMap_eq_nil_iff.mp h moment List.mem_cons_self
      have htrace : signalsAt depth trace = [] :=
        List.filterMap_eq_nil_iff.mpr fun later hlater =>
          List.filterMap_eq_nil_iff.mp h later (List.mem_cons_of_mem _ hlater)
      simp only [grounds, hmoment, ih htrace]
      rw [List.filterMap_cons]
      cases moment.event.ground? <;> rfl

/-- The calls of a trace are those that its grounds lead to, on every channel. -/
def Explains (C : Consumer α) (depth : ℕ) (mind : C.Mind) (handle parent : Option ℕ)
    (trace : List (Moment ν α)) : Prop :=
  ∀ channel,
    callsTo channel trace
      = (C.grounds depth mind trace).filterMap (Ground.call? handle parent channel)

namespace Explains

variable {depth : ℕ} {mind : C.Mind} {handle parent : Option ℕ}

lemma nil : C.Explains depth mind handle parent ([] : List (Moment ν α)) := fun _ => rfl

lemma append {first second : List (Moment ν α)} (hfirst : C.Explains depth mind handle parent first)
    (hsecond : C.Explains depth (C.afterAll (signalsAt depth first) mind) handle parent second) :
    C.Explains depth mind handle parent (first ++ second) := by
  intro channel
  rw [callsTo_append, grounds_append, List.filterMap_append, hfirst, hsecond]

lemma beneath {trace : List (Moment ν α)} (h : C.Explains depth mind handle parent trace)
    (above : Standing) :
    C.Explains (depth + 1) mind handle parent (trace.map (·.beneath above)) := by
  intro channel
  rw [callsTo_map_beneath, grounds_succ_map_beneath, h]

end Explains

end Consumer

/-! ## What a layer shows -/

lemma filterMap_ite_some {β : Type} (p : Prop) [Decidable p] (l : List β) :
    (l.filterMap fun x => if p then some x else none) = if p then l else [] := by
  by_cases h : p <;> simp [h]

lemma filterMap_callTo?_called (channel : ℕ) (subscription : Subscription) (calls : List Call) :
    (subscription.called calls : List (Event ν α)).filterMap (Event.callTo? channel)
      = if subscription.channel? = some channel then calls else [] := by
  unfold Subscription.called
  cases subscription.channel? with
  | none => simp
  | some p =>
      simp only [Option.some.injEq, List.filterMap_map]
      exact filterMap_ite_some (p = channel) calls

/-- A subscription that is refused is cancelled, and no other refusal makes a call. -/
lemma filterMap_callTo?_refusal (channel : ℕ) (config : Config) (phase : Phase)
    (signal : Signal α) :
    (Session.refusal config phase signal : List (Event ν α)).filterMap (Event.callTo? channel)
      = signal.subscription?.toList.filterMap fun subscription =>
          Ground.call? none none channel (.refused subscription) := by
  cases signal with
  | subscribe subscription =>
      simp only [Session.refusal, List.filterMap_cons, Event.callTo?, filterMap_callTo?_called,
        Signal.subscription?, Option.toList_some, Ground.call?, List.filterMap_nil]
      split <;> rfl
  | error given =>
      simp only [Session.refusal, Config.dropError, Config.sink]
      split <;> rfl
  | _ => rfl

lemma filterMap_callTo?_withdrawal (channel : ℕ) (signal : Signal α) (given : Subscription) :
    (signal.withdrawal given : List (Event ν α)).filterMap (Event.callTo? channel)
      = if signal.kind = .next ∧ given.channel? = some channel then [.cancel] else [] := by
  cases signal with
  | next item => simp [Signal.withdrawal, filterMap_callTo?_called, Signal.kind]
  | _ => simp [Signal.withdrawal, Signal.kind]

lemma callsTo_moments (channel : ℕ) (below : List Standing) (shown : List (Standing × Event ν α)) :
    callsTo channel (Layer.moments below shown) = shown.filterMap (·.2.callTo? channel) := by
  rw [callsTo, Layer.moments, List.filterMap_map]
  congr 1

lemma filterMap_ground?_eq (events : List (Standing × Event ν α)) :
    events.filterMap (·.2.ground?) = (events.filterMap (·.2.hookRun?)).filterMap fun run =>
      if run.withdraws then some .failure else none := by
  rw [List.filterMap_filterMap]
  rfl

lemma HookError.withdraws_run {failure : HookError} {error : StreamError}
    (route : failure.route = .ok error) (signal : Signal α) (note : ν) :
    (signal.run (some failure) note).withdraws = (signal.kind == .next) := by
  simp [HookRun.withdraws, Signal.run, HookError.severity_of_route route]

/-- What a layer shows while it takes a signal, or drops one that is no subscription: the only call
is the one that the failure of the hook for items is the ground for. -/
lemma Conduct.explains {hooks : Hooks ω ν α σ} {config : Config} {session session' : Session σ}
    {signal : Signal α} {events : List (Standing × Event ν α)} {exit : Exit α}
    (conduct : Conduct hooks config session signal events session' exit)
    (taken : session.accepts signal = true ∨ signal.kind ≠ .subscribe) {parent : Option ℕ}
    (wired : ∀ given, session.Due signal given → signal.kind = .next → given.channel? = parent)
    (handle : Option ℕ) (channel : ℕ) :
    events.filterMap (·.2.callTo? channel)
      = (events.filterMap (·.2.ground?)).filterMap (Ground.call? handle parent channel) := by
  rw [filterMap_ground?_eq]
  cases conduct with
  | refused undue =>
      have hnone : signal.subscription? = none := by
        rcases taken with due | other
        · simp [due] at undue
        · exact Signal.subscription?_eq_none other
      simp [filterMap_callTo?_refusal, hnone]
  | passed due note there state =>
      cases note with
      | none => simp
      | some note => simp [List.filterMap_cons, HookRun.withdraws, Signal.run]
  | @replaced given due note failure error fails route state =>
      have hwithdraws := HookError.withdraws_run route signal note
      simp only [List.filterMap_append, Session.filterMap_under, List.filterMap_cons,
        List.filterMap_nil, Event.callTo?_hook, Event.callTo?_notice, Event.hookRun?_hook,
        Event.hookRun?_notice, filterMap_callTo?_withdrawal, filterMap_hookRun?_withdrawal,
        List.nil_append, List.append_nil, hwithdraws]
      by_cases hnext : signal.kind = .next
      · simp [hnext, wired given due hnext, Ground.call?, List.filterMap_cons]
        split <;> rfl
      · simp [hnext]
  | @escaped given due note failure fatal fails route state =>
      have hgrave : failure.severity = .fatal := HookError.severity_eq_fatal_iff.mpr ⟨fatal, route⟩
      simp [List.filterMap_cons, HookRun.withdraws, Signal.run, hgrave]

/-! ## Seeds -/

@[simp] lemma seedFailed_append (first second : List (Moment ν α)) :
    seedFailed (first ++ second) = (seedFailed first || seedFailed second) := by
  simp [seedFailed]

@[simp] lemma seedFailed_map_beneath (above : Standing) (trace : List (Moment ν α)) :
    seedFailed (trace.map (·.beneath above)) = seedFailed trace := by
  rw [seedFailed, List.filterMap_map]
  rfl

lemma Signal.isVoid_run (signal : Signal α) (failure : Option HookError) (note : ν) :
    (signal.run failure note).isVoid = (signal.kind == .subscribe && failure.isSome) := by
  simp [HookRun.isVoid, Signal.run]

lemma Conduct.seedless {hooks : Hooks ω ν α σ} {config : Config} {session session' : Session σ}
    {signal : Signal α} {events : List (Standing × Event ν α)} {exit : Exit α}
    (conduct : Conduct hooks config session signal events session' exit)
    (other : signal.kind ≠ .subscribe) :
    (events.filterMap (·.2.hookRun?)).any HookRun.isVoid = false := by
  refine List.any_eq_false.mpr fun run h => ?_
  obtain ⟨_, hoccasion, _⟩ := conduct.of_mem_hookRuns h
  simp [HookRun.isVoid, hoccasion, other]

/-- What becomes of the first subscription at a layer: it goes on as a relay, or the seed failed and
at most an inert one goes on, with an error after it. -/
lemma Conduct.opening {hooks : Hooks ω ν α σ} {config : Config} {subscription : Subscription}
    {session' : Session σ} {events : List (Standing × Event ν α)} {exit : Exit α}
    (conduct : Conduct hooks config .fresh (.subscribe subscription) events session' exit) :
    let failed := (events.filterMap (·.2.hookRun?)).any HookRun.isVoid
    (failed = false ∧ exit.signals = [.subscribe (.relay subscription)]
        ∧ ∃ state, session' = .active subscription state)
      ∨ (failed = true ∧ (∃ state, session' = .terminated subscription state)
        ∧ (exit.signals = [] ∨ ∃ error, exit.signals = [.subscribe .inert, .error error])) := by
  cases conduct with
  | refused undue => simp [Session.accepts] at undue
  | passed due note there state =>
      cases due with
      | opening parent =>
          refine Or.inl ⟨?_, rfl, state, rfl⟩
          cases note <;> simp [Signal.isVoid_run]
  | replaced due note fails route state =>
      cases due with
      | opening parent =>
          refine Or.inr ⟨?_, ⟨state, rfl⟩, Or.inr ⟨_, rfl⟩⟩
          simp [List.filterMap_cons, Signal.isVoid_run, Signal.kind]
  | escaped due note fails route state =>
      cases due with
      | opening parent =>
          refine Or.inr ⟨?_, ⟨state, rfl⟩, Or.inl rfl⟩
          simp [List.filterMap_cons, Signal.isVoid_run, Signal.kind]

/-- A signal that is no subscription goes on as one such signal or not at all, and only an item that
is due goes on as an item. -/
lemma Conduct.going {hooks : Hooks ω ν α σ} {config : Config} {session session' : Session σ}
    {signal : Signal α} {events : List (Standing × Event ν α)} {exit : Exit α}
    (conduct : Conduct hooks config session signal events session' exit)
    (other : signal.kind ≠ .subscribe) :
    exit.signals = [] ∨ ∃ s, exit.signals = [s] ∧ s.kind ≠ .subscribe
      ∧ (s.kind = .next → signal.kind = .next ∧ ∃ parent, session.Due signal parent) := by
  cases conduct with
  | refused undue => exact Or.inl rfl
  | @passed parent due note there state =>
      refine Or.inr ⟨signal, ?_, other, fun h => ⟨h, parent, due⟩⟩
      cases signal with
      | subscribe _ => exact absurd rfl other
      | _ => rfl
  | replaced due note fails route state =>
      cases signal with
      | subscribe _ => exact absurd rfl other
      | _ => exact Or.inr ⟨_, rfl, by simp [Signal.kind], by simp [Signal.kind]⟩
  | escaped due note fails route state => exact Or.inl rfl

lemma Conduct.active_before {hooks : Hooks ω ν α σ} {config : Config} {session : Session σ}
    {parent : Subscription} {state' : Option σ} {signal : Signal α}
    {events : List (Standing × Event ν α)} {exit : Exit α}
    (conduct : Conduct hooks config session signal events (.active parent state') exit)
    (other : signal.kind ≠ .subscribe) : ∃ state, session = .active parent state := by
  generalize hafter : Session.active parent state' = session' at conduct
  cases conduct with
  | refused undue => exact ⟨state', hafter.symm⟩
  | passed due note there state =>
      cases due with
      | opening _ => exact absurd rfl other
      | ongoing given before accepted =>
          unfold Session.after at hafter
          split at hafter
          · simp at hafter
          · obtain ⟨rfl, rfl⟩ := Session.active.inj hafter
            exact ⟨before, rfl⟩
  | replaced due note fails route state => simp at hafter
  | escaped due note fails route state => simp at hafter

/-! ## Subscribers with a consumer at the end -/

namespace Subscriber

variable {C : Consumer α}

/-- What the consumer at the end knows, as it is seen in the state, comes of the signals that it is
given. -/
def Tracks (S : Subscriber ω ν α) (depth : ℕ) (mindOf : S.State → C.Mind) : Prop :=
  ∀ signal state env, mindOf (S.receive signal state env).state
    = C.afterAll (signalsAt depth (S.receive signal state env).trace) (mindOf state)

variable {S : Subscriber ω ν α} {depth : ℕ} {mindOf : S.State → C.Mind}

lemma Tracks.receiveAll (tracks : S.Tracks depth mindOf) (signals : List (Signal α))
    (state : S.State) (env : ω) :
    mindOf (S.receiveAll signals state env).state
      = C.afterAll (signalsAt depth (S.receiveAll signals state env).trace) (mindOf state) := by
  refine receiveAll_induction
    (motive := fun _ state outcome => mindOf outcome.state
      = C.afterAll (signalsAt depth outcome.trace) (mindOf state))
    ?nil ?stop ?go signals state env
  case nil => exact fun _ _ => rfl
  case stop =>
    intro signal _ state env _ _
    exact tracks signal state env
  case go =>
    intro signal _ state env rest _ ih
    simp only [Outcome.precededBy, signalsAt_append, Consumer.afterAll_append]
    rw [ih, tracks]

lemma Tracks.onto (tracks : S.Tracks depth mindOf) (layer : Layer ω ν α) :
    (layer.onto S).Tracks (depth + 1) (fun state => mindOf (Prod.snd state)) := by
  rintro signal ⟨session, below⟩ env
  rw [Layer.signalsAt_succ_receive_onto, Layer.receive_onto]
  exact tracks.receiveAll _ below _

/-- What comes of a signal that is no subscription: the handle of the consumer stays, what the calls
lead to is explained, layers stay wired, and no seed runs. -/
structure Routed (S : Subscriber ω ν α) (depth : ℕ) (mindOf : S.State → C.Mind)
    (Wired : Option ℕ → S.State → Prop) (parent : Option ℕ) (state : S.State)
    (outcome : Outcome ω ν α S.State) : Prop where
  held : (mindOf outcome.state).1 = (mindOf state).1
  explained : C.Explains depth (mindOf state) (leadsTo? (mindOf state).1) parent outcome.trace
  wired : ∀ channel, Wired channel state → Wired channel outcome.state
  seedless : seedFailed outcome.trace = false

lemma routed_idle {Wired : Option ℕ → S.State → Prop} (parent : Option ℕ) (state : S.State)
    (env : ω) : S.Routed depth mindOf Wired parent state (.idle state env) :=
  ⟨rfl, .nil, fun _ h => h, rfl⟩

/-- A signal that is no subscription is routed along the wires, and only items need them. -/
def Routes (S : Subscriber ω ν α) (depth : ℕ) (mindOf : S.State → C.Mind)
    (Wired : Option ℕ → S.State → Prop) : Prop :=
  ∀ ⦃signal state parent⦄ (env : ω), signal.kind ≠ .subscribe →
    (signal.kind = .next → Wired parent state) →
      S.Routed depth mindOf Wired parent state (S.receive signal state env)

lemma Routes.ended {Wired : Option ℕ → S.State → Prop} (routes : S.Routes depth mindOf Wired)
    (error : StreamError) (state : S.State) (parent : Option ℕ) (env : ω) :
    S.Routed depth mindOf Wired parent state (S.receive (.error error) state env) :=
  routes env (by simp [Signal.kind]) (by simp [Signal.kind])

/-- What comes of the first subscription: the handle of the consumer leads where the subscription
does, unless a seed failed, the calls that are made already are explained, and the layers are wired
to the subscription. -/
structure Opened (S : Subscriber ω ν α) (depth : ℕ) (mindOf : S.State → C.Mind)
    (Wired : Option ℕ → S.State → Prop) (subscription : Subscription)
    (outcome : Outcome ω ν α S.State) : Prop where
  handle : leadsTo? (mindOf outcome.state).1
    = if seedFailed outcome.trace then none else subscription.channel?
  explained : ∀ parent, C.Explains depth (mindOf S.init) (leadsTo? (mindOf outcome.state).1) parent
    outcome.trace
  wired : Wired subscription.channel? outcome.state

/-- The consumer holds nothing at first, and the first subscription is routed to it. -/
structure Opens (S : Subscriber ω ν α) (depth : ℕ) (mindOf : S.State → C.Mind)
    (Wired : Option ℕ → S.State → Prop) : Prop where
  unheld : (mindOf S.init).1 = none
  opened : ∀ subscription env,
    S.Opened depth mindOf Wired subscription (S.receive (.subscribe subscription) S.init env)

end Subscriber

/-! ## The consumer -/

lemma Reaction.filterMap_callTo?_events {τ : Type} (channel : ℕ) (reaction : Reaction τ)
    (held : Option Subscription) :
    (reaction.events held : List (Event ν α)).filterMap (Event.callTo? channel)
      = if leadsTo? held = some channel then reaction.calls else [] := by
  have hfatal : (reaction.fatal.toList.map Event.failed : List (Event ν α)).filterMap
      (Event.callTo? channel) = [] := by
    cases reaction.fatal <;> rfl
  rw [Reaction.events, List.filterMap_append, hfatal, List.append_nil]
  cases held with
  | none => rfl
  | some subscription => exact filterMap_callTo?_called channel subscription reaction.calls

namespace Consumer

variable {C : Consumer α}

def mind (C : Consumer α) (state : (C.subscriber : Subscriber ω ν α).State) : C.Mind := state

lemma grounds_receive (signal : Signal α) (state : (C.subscriber : Subscriber ω ν α).State)
    (env : ω) :
    C.grounds 0 (C.mind state) (C.subscriber.receive signal state env).trace
      = C.asks signal (C.mind state) := by
  obtain ⟨held, own⟩ := state
  have hevents : ∀ event ∈ ((C.react signal own).events (holding signal held) : List (Event ν α)),
      event.received? = none ∧ event.ground? = none := by
    intro event h
    rcases Reaction.of_mem_events h with ⟨channel, call, rfl⟩ | ⟨fatal, rfl⟩ <;> exact ⟨rfl, rfl⟩
  have hquiet : signalsAt 0 (((C.react signal own).events (holding signal held)).map
      fun event => ({ layer := 0, standings := [], event } : Moment ν α)) = [] :=
    signalsAt_eq_nil (List.forall_mem_map.mpr fun event h => (hevents event h).1)
  rw [C.receive_eq, List.map_cons]
  simp only [grounds, Moment.signalAt?, if_true]
  rw [grounds_of_signalsAt_eq_nil hquiet, List.filterMap_map]
  exact (congrArg _ (List.filterMap_eq_nil_iff.mpr fun event h => (hevents event h).2)).trans
    (List.append_nil _)

lemma explains_receive (signal : Signal α) (state : (C.subscriber : Subscriber ω ν α).State)
    (parent : Option ℕ) (env : ω) :
    C.Explains 0 (C.mind state) (leadsTo? (holding signal (C.mind state).1)) parent
      (C.subscriber.receive signal state env).trace := by
  intro channel
  rw [grounds_receive]
  obtain ⟨held, own⟩ := state
  have hcalls :
      callsTo channel ((C.subscriber : Subscriber ω ν α).receive signal (held, own) env).trace
        = ((C.react signal own).events (holding signal held) : List (Event ν α)).filterMap
          (Event.callTo? channel) := by
    rw [C.receive_eq, callsTo, List.filterMap_map]
    rfl
  rw [hcalls, Reaction.filterMap_callTo?_events]
  simp only [mind, asks]
  cases holding signal held with
  | none => rfl
  | some subscription =>
      simp only [List.filterMap_map]
      exact (filterMap_ite_some (leadsTo? (some subscription) = some channel) _).symm

lemma seedFailed_receive (signal : Signal α) (state : (C.subscriber : Subscriber ω ν α).State)
    (env : ω) : seedFailed (C.subscriber.receive signal state env).trace = false := by
  obtain ⟨held, own⟩ := state
  rw [C.receive_eq, seedFailed, List.filterMap_map]
  refine congrArg (List.any · HookRun.isVoid) (List.filterMap_eq_nil_iff.mpr ?_)
  refine List.forall_mem_cons.mpr ⟨rfl, fun event h => ?_⟩
  rcases Reaction.of_mem_events h with ⟨channel, call, rfl⟩ | ⟨fatal, rfl⟩ <;> rfl

lemma tracks (C : Consumer α) : (C.subscriber : Subscriber ω ν α).Tracks 0 C.mind := by
  intro signal state env
  rw [C.attentive]
  obtain ⟨held, own⟩ := state
  rfl

lemma routes (C : Consumer α) :
    (C.subscriber : Subscriber ω ν α).Routes 0 C.mind (fun _ _ => True) := by
  intro signal state parent env other _
  have hheld : holding signal (C.mind state).1 = (C.mind state).1 := by
    cases signal with
    | subscribe _ => exact absurd rfl other
    | _ => rfl
  have explained := C.explains_receive signal state parent env
  rw [hheld] at explained
  exact ⟨hheld, explained, fun _ _ => trivial, C.seedFailed_receive signal state env⟩

lemma opens (C : Consumer α) :
    (C.subscriber : Subscriber ω ν α).Opens 0 C.mind (fun _ _ => True) := by
  refine ⟨rfl, fun subscription env => ?_⟩
  refine ⟨?_, fun parent => C.explains_receive _ _ parent env, trivial⟩
  rw [C.seedFailed_receive]
  rfl

end Consumer

/-! ## Layers -/

namespace Layer

variable {C : Consumer α} {layer : Layer ω ν α} {actual : Subscriber ω ν α} {depth : ℕ}
  {mindOf : actual.State → C.Mind} {Wired : Option ℕ → actual.State → Prop}

/-- A layer that is active is wired to a channel if its parent leads there and what is below is
wired to it as well. -/
def Wiring (layer : Layer ω ν α) (actual : Subscriber ω ν α)
    (Wired : Option ℕ → actual.State → Prop) (channel : Option ℕ)
    (state : (layer.onto actual).State) : Prop :=
  match layer.sessionOf actual state with
  | .active parent _ => parent.channel? = channel ∧ Wired channel (Prod.snd state)
  | _ => True

def mindBelow (layer : Layer ω ν α) (actual : Subscriber ω ν α) (mindOf : actual.State → C.Mind)
    (state : (layer.onto actual).State) : C.Mind :=
  mindOf (Prod.snd state)

lemma callsTo_ownMoments (channel : ℕ) (signal : Signal α) (session : Session layer.State)
    (below : actual.State) (env : ω) :
    callsTo channel (layer.ownMoments actual signal session below env)
      = (layer.turn session signal env).events.filterMap (·.2.callTo? channel) := by
  rw [ownMoments, callsTo_moments]
  rfl

lemma grounds_ownMoments (mind : C.Mind) (signal : Signal α) (session : Session layer.State)
    (below : actual.State) (env : ω) :
    C.grounds (depth + 1) mind (layer.ownMoments actual signal session below env)
      = (layer.turn session signal env).events.filterMap (·.2.ground?) := by
  have hquiet : signalsAt (depth + 1) (layer.ownMoments actual signal session below env) = [] :=
    signalsAt_succ_ownMoments depth signal session below env
  rw [Consumer.grounds_of_signalsAt_eq_nil hquiet, ownMoments, moments, List.filterMap_map]
  rfl

lemma seedFailed_ownMoments (signal : Signal α) (session : Session layer.State)
    (below : actual.State) (env : ω) :
    seedFailed (layer.ownMoments actual signal session below env)
      = ((layer.turn session signal env).events.filterMap (·.2.hookRun?)).any HookRun.isVoid := by
  rw [ownMoments, seedFailed, moments, List.filterMap_map]
  rfl

lemma explains_ownMoments {signal : Signal α} {session : Session layer.State} {parent : Option ℕ}
    (taken : session.accepts signal = true ∨ signal.kind ≠ .subscribe)
    (wired : ∀ given, session.Due signal given → signal.kind = .next → given.channel? = parent)
    (mind : C.Mind) (handle : Option ℕ) (below : actual.State) (env : ω) :
    C.Explains (depth + 1) mind handle parent
      (layer.ownMoments actual signal session below env) := by
  intro channel
  rw [callsTo_ownMoments, grounds_ownMoments]
  exact (layer.conduct session signal env).explains taken wired handle channel

lemma explains_receive_onto {signal : Signal α} {session : Session layer.State}
    {below : actual.State} {env : ω} {mind : C.Mind} {handle parent : Option ℕ}
    (own : C.Explains (depth + 1) mind handle parent
      (layer.ownMoments actual signal session below env))
    (passed : C.Explains depth mind handle parent
      (layer.passedOn actual signal session below env).trace) :
    C.Explains (depth + 1) mind handle parent
      ((layer.onto actual).receive signal (session, below) env).trace := by
  rw [receive_onto]
  refine own.append ?_
  rw [signalsAt_succ_ownMoments]
  exact passed.beneath _

lemma seedFailed_receive_onto (signal : Signal α) (session : Session layer.State)
    (below : actual.State) (env : ω) :
    seedFailed ((layer.onto actual).receive signal (session, below) env).trace
      = (((layer.turn session signal env).events.filterMap (·.2.hookRun?)).any HookRun.isVoid
          || seedFailed (layer.passedOn actual signal session below env).trace) := by
  rw [receive_onto, seedFailed_append, seedFailed_map_beneath, seedFailed_ownMoments]

lemma routed_passedOn (routes : actual.Routes depth mindOf Wired) {signal : Signal α}
    {session : Session layer.State} {below : actual.State} {parent : Option ℕ} {env : ω}
    (other : signal.kind ≠ .subscribe)
    (wired : signal.kind = .next → layer.Wiring actual Wired parent (session, below)) :
    actual.Routed depth mindOf Wired parent below
      (layer.passedOn actual signal session below env) := by
  rcases (layer.conduct session signal env).going other with hnone | ⟨s, hsignals, hkind, hnext⟩
  · rw [passedOn_of_signals_eq_nil hnone]
    exact Subscriber.routed_idle parent below _
  · rw [passedOn, hsignals, Subscriber.receiveAll_singleton]
    refine routes _ hkind fun h => ?_
    obtain ⟨hitem, given, due⟩ := hnext h
    cases due with
    | opening _ => exact absurd rfl other
    | ongoing given state accepted => exact (wired hitem).2

/-- **A layer routes what the subscriber below it routes.** -/
lemma routes_onto (routes : actual.Routes depth mindOf Wired) :
    (layer.onto actual).Routes (depth + 1) (layer.mindBelow actual mindOf)
      (layer.Wiring actual Wired) := by
  rintro signal ⟨session, below⟩ parent env other wired
  have conduct := layer.conduct session signal env
  have passed : actual.Routed depth mindOf Wired parent below
      (layer.passedOn actual signal session below env) := routed_passedOn routes other wired
  have own : C.Explains (depth + 1) (mindOf below) (leadsTo? (mindOf below).1) parent
      (layer.ownMoments actual signal session below env) := by
    refine explains_ownMoments (Or.inr other) (fun given due hitem => ?_) _ _ below env
    cases due with
    | opening _ => exact absurd rfl other
    | ongoing given state accepted => exact (wired hitem).1
  refine ⟨?_, explains_receive_onto own passed.explained, fun channel hwired => ?_, ?_⟩
  · rw [receive_onto]
    exact passed.held
  · rw [receive_onto]
    generalize (layer.turn session signal env).session = session' at conduct ⊢
    cases session' with
    | active given state' =>
        obtain ⟨state, rfl⟩ := conduct.active_before other
        exact ⟨hwired.1, passed.wired channel hwired.2⟩
    | _ => exact trivial
  · rw [seedFailed_receive_onto, conduct.seedless other, passed.seedless]
    rfl

/-- Where a seed failed, the consumer gets an inert handle, and its calls go nowhere. -/
lemma opened_inert (opens : actual.Opens depth mindOf Wired)
    (routes : actual.Routes depth mindOf Wired) (tracks : actual.Tracks depth mindOf)
    (error : StreamError) (env : ω) :
    let outcome := actual.receiveAll [.subscribe .inert, .error error] actual.init env
    leadsTo? (mindOf outcome.state).1 = none
      ∧ ∀ parent, C.Explains depth (mindOf actual.init) none parent outcome.trace := by
  have opened := opens.opened .inert env
  have htold := tracks (.subscribe .inert) actual.init env
  intro outcome
  have houtcome : outcome = (actual.receive (.subscribe .inert) actual.init env).andThen
    (actual.receiveAll [.error error]) := rfl
  rw [houtcome]
  generalize actual.receive (.subscribe .inert) actual.init env = first at opened htold ⊢
  have hnone : leadsTo? (mindOf first.state).1 = none := by
    rw [opened.handle]
    exact ite_self _
  have explained := opened.explained
  rw [hnone] at explained
  -- The error after the inert subscription arrives only if nothing escaped over the latter.
  cases hescaped : first.escaped with
  | some fatal =>
      rw [Outcome.andThen_of_escaped hescaped]
      exact ⟨hnone, explained⟩
  | none =>
      rw [Outcome.andThen_of_not_escaped hescaped, Subscriber.receiveAll_singleton]
      have ended := routes.ended error first.state
      refine ⟨?_, fun parent => (explained parent).append ?_⟩
      · exact (congrArg leadsTo? (ended none first.env).held).trans hnone
      · have second := (ended parent first.env).explained
        rw [hnone, htold] at second
        exact second

/-- What a layer passes on of the first subscription reaches the consumer, unless a seed failed in
the layer or below it. -/
lemma opened_passedOn (layer : Layer ω ν α) (opens : actual.Opens depth mindOf Wired)
    (routes : actual.Routes depth mindOf Wired) (tracks : actual.Tracks depth mindOf)
    (subscription : Subscription) (env : ω) :
    let turn := layer.turn .fresh (.subscribe subscription) env
    let passed := layer.passedOn actual (.subscribe subscription) .fresh actual.init env
    leadsTo? (mindOf passed.state).1
        = (if (turn.events.filterMap (·.2.hookRun?)).any HookRun.isVoid || seedFailed passed.trace
            then none else subscription.channel?)
      ∧ (∀ parent, C.Explains depth (mindOf actual.init) (leadsTo? (mindOf passed.state).1) parent
          passed.trace)
      ∧ layer.Wiring actual Wired subscription.channel? (turn.session, passed.state) := by
  intro turn passed
  have hpassed : passed = actual.receiveAll turn.exit.signals actual.init turn.env := rfl
  rcases (layer.conduct .fresh (.subscribe subscription) env).opening with
    ⟨hfailed, hsignals, state, hsession⟩ | ⟨hfailed, ⟨state, hsession⟩, hsignals⟩
  · rw [hpassed, hsignals, Subscriber.receiveAll_singleton, hfailed, Bool.false_or]
    have opened := opens.opened (.relay subscription) turn.env
    refine ⟨opened.handle, opened.explained, ?_⟩
    rw [show turn.session = _ from hsession]
    exact ⟨rfl, opened.wired⟩
  · rw [hfailed, Bool.true_or, if_pos rfl, show turn.session = _ from hsession]
    rcases hsignals with hsignals | ⟨error, hsignals⟩
    · rw [hpassed, hsignals]
      exact ⟨congrArg leadsTo? opens.unheld, fun _ => .nil, trivial⟩
    · rw [hpassed, hsignals]
      obtain ⟨hnone, explained⟩ := opened_inert opens routes tracks error turn.env
      exact ⟨hnone, fun parent => hnone ▸ explained parent, trivial⟩

/-- **A layer opens what the subscriber below it opens.** -/
lemma opens_onto (opens : actual.Opens depth mindOf Wired)
    (routes : actual.Routes depth mindOf Wired) (tracks : actual.Tracks depth mindOf) :
    (layer.onto actual).Opens (depth + 1) (layer.mindBelow actual mindOf)
      (layer.Wiring actual Wired) := by
  refine ⟨opens.unheld, fun subscription env => ?_⟩
  obtain ⟨handle, explained, wired⟩ := layer.opened_passedOn opens routes tracks subscription env
  have hinit : (layer.onto actual).init = (.fresh, actual.init) := rfl
  have own : ∀ parent handle, C.Explains (depth + 1) (mindOf actual.init) handle parent
      (layer.ownMoments actual (.subscribe subscription) .fresh actual.init env) :=
    fun parent handle =>
      explains_ownMoments (Or.inl rfl) (by simp [Signal.kind]) _ _ actual.init env
  rw [hinit]
  refine ⟨?_, fun parent => explains_receive_onto (own parent _) ?_, ?_⟩
  · rw [seedFailed_receive_onto, receive_onto]
    exact handle
  · rw [receive_onto]
    exact explained parent
  · rw [receive_onto]
    exact wired

/-- A signal that is not due leaves all as it is and gives no ground of itself; the only call is the
one that cancels a subscription. -/
lemma receive_onto_undue {signal : Signal α} {session : Session layer.State}
    (undue : session.accepts signal = false) (mind : C.Mind) (below : actual.State) (env : ω) :
    let outcome := (layer.onto actual).receive signal (session, below) env
    outcome.state = (session, below) ∧ C.grounds (depth + 1) mind outcome.trace = []
      ∧ seedFailed outcome.trace = false
      ∧ ∀ channel, callsTo channel outcome.trace = signal.subscription?.toList.filterMap
          fun subscription => Ground.call? none none channel (.refused subscription) := by
  have hevents : (layer.turn session signal env).events
      = Session.under session.standing (Session.refusal layer.config session.phase signal) :=
    congrArg Turn.events (Session.turn_of_not_accepts layer.hooks layer.config undue env)
  have hruns : (layer.turn session signal env).events.filterMap (·.2.hookRun?) = [] := by
    rw [hevents]
    simp
  have hground : (layer.turn session signal env).events.filterMap (·.2.ground?) = [] := by
    rw [filterMap_ground?_eq, hruns]
    rfl
  intro outcome
  rw [show outcome = _ from receive_onto_of_not_accepts undue below env]
  refine ⟨rfl, ?_, ?_, fun channel => ?_⟩
  · exact (grounds_ownMoments mind signal session below env).trans hground
  · rw [seedFailed_ownMoments, hruns]
    rfl
  · rw [callsTo_ownMoments, hevents, Session.filterMap_under, filterMap_callTo?_refusal]

/-! ## Stacks -/

def mindIn (C : Consumer α) :
    (layers : List (Layer ω ν α)) → (stack layers C.subscriber).State → C.Mind
  | [] => C.mind
  | layer :: layers => layer.mindBelow (stack layers C.subscriber) (mindIn C layers)

/-- The layers of a stack that are active, up to the first that is not, are wired to a channel. -/
def WiredTo (C : Consumer α) :
    (layers : List (Layer ω ν α)) → Option ℕ → (stack layers C.subscriber).State → Prop
  | [] => fun _ _ => True
  | layer :: layers => layer.Wiring (stack layers C.subscriber) (WiredTo C layers)

lemma tracks_stack (C : Consumer α) : ∀ layers : List (Layer ω ν α),
    (stack layers C.subscriber).Tracks layers.length (mindIn C layers)
  | [] => C.tracks
  | layer :: layers => (tracks_stack C layers).onto layer

/-- **Signals that are no subscriptions are routed**, through any number of layers. -/
theorem routes_stack (C : Consumer α) : ∀ layers : List (Layer ω ν α),
    (stack layers C.subscriber).Routes layers.length (mindIn C layers) (WiredTo C layers)
  | [] => C.routes
  | _ :: layers => routes_onto (routes_stack C layers)

/-- **The first subscription is routed**, through any number of layers. -/
theorem opens_stack (C : Consumer α) : ∀ layers : List (Layer ω ν α),
    (stack layers C.subscriber).Opens layers.length (mindIn C layers) (WiredTo C layers)
  | [] => C.opens
  | _ :: layers => opens_onto (opens_stack C layers) (routes_stack C layers) (tracks_stack C layers)

lemma handle_stack (C : Consumer α) : ∀ (layers : List (Layer ω ν α))
    (state : (stack layers C.subscriber).State),
    (stack layers C.subscriber).handle state = (mindIn C layers state).1
  | [], _ => rfl
  | _ :: layers, state => handle_stack C layers (Prod.snd state)

end Layer

end SignalPeek
