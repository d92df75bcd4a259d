import Mathlib.Tactic.Common
import SignalPeek.Proofs.Concert
import SignalPeek.Proofs.Grounds
import SignalPeek.Proofs.Stillness

/-!
# Traffic towards the source

The calls that arrive at the source end of a stack, in whatever order signals and calls come, are
the demand of the consumer and the prescribed cancellations, none more and none less
(`traffic_history`).

**The grounds of a run** (`grounds`) are listed in the order in which they come up: what the
consumer asks for between two signals, a subscription that comes when there was one before, and
what the trace of each signal shows.  Before the first subscription there are none.

**The invariant** (`Served`) says for a run so far that the calls are those that its grounds lead
to, that the handle of the consumer leads to the first subscription unless a seed failed, and that
the layers are wired to it.  The first subscription establishes it (`served_opening`).  Every other
stimulus keeps it (`Served.extend`), for one of three reasons: it is a call, it is not due, or it is
a signal that is routed along the wires.

**Other subscriptions** are refused by the first layer, so they are cancelled and never become the
parent of anything (`parents_history`).
-/

namespace SignalPeek

variable {ω ν α σ : Type}

def Ground.refused? : Ground → Option Subscription
  | .refused subscription => some subscription
  | _ => none

lemma Session.accepts_of_parent?_eq_none {session : Session σ} (h : session.parent? = none)
    {signal : Signal α} (other : signal.kind ≠ .subscribe) : session.accepts signal = false := by
  cases session with
  | fresh =>
      cases signal with
      | subscribe _ => exact absurd rfl other
      | _ => rfl
  | _ => simp [parent?] at h

lemma Session.accepts_subscribe_of_parent? {session : Session σ} {parent : Subscription}
    (h : session.parent? = some parent) (subscription : Subscription) :
    session.accepts (.subscribe subscription : Signal α) = false := by
  cases session with
  | fresh => simp [parent?] at h
  | _ => rfl

namespace Layer

variable (C : Consumer α) (layers : List (Layer ω ν α))

/-- The grounds for calls that a stimulus gives, where `given` is the subscription that came first:
what the consumer asks for between signals, a further subscription, and what the trace shows. -/
def groundsOf (given : Option Subscription) (stimulus : Stimulus α)
    (state : (stack layers C.subscriber).State) (env : ω) : List Ground :=
  match stimulus with
  | .call call => (mindIn C layers state).1.toList.map fun _ => .asked call
  | .signal s =>
    (given.bind fun _ => s.subscription?).toList.map .refused
      ++ C.grounds layers.length (mindIn C layers state)
          ((stack layers C.subscriber).receive s state env).trace

/-- The grounds that stimuli give, one after the other, after those of the past. -/
def groundsFrom (env : ω) : (past stimuli : List (Stimulus α)) → List Ground
  | _, [] => []
  | past, stimulus :: stimuli =>
    let run := (stack layers C.subscriber).history past env
    groundsOf C layers (subscriptions past).head? stimulus run.state run.env
      ++ groundsFrom env (past ++ [stimulus]) stimuli

def grounds (stimuli : List (Stimulus α)) (env : ω) : List Ground :=
  groundsFrom C layers env [] stimuli

lemma groundsFrom_concat (env : ω) (past stimuli : List (Stimulus α)) (stimulus : Stimulus α) :
    groundsFrom C layers env past (stimuli ++ [stimulus])
      = groundsFrom C layers env past stimuli
        ++ groundsFrom C layers env (past ++ stimuli) [stimulus] := by
  induction stimuli generalizing past with
  | nil => simp [groundsFrom]
  | cons first stimuli ih => simp [groundsFrom, ih, List.append_assoc]

lemma grounds_concat (past : List (Stimulus α)) (stimulus : Stimulus α) (env : ω) :
    grounds C layers (past ++ [stimulus]) env
      = grounds C layers past env
        ++ groundsOf C layers (subscriptions past).head? stimulus
            ((stack layers C.subscriber).history past env).state
            ((stack layers C.subscriber).history past env).env := by
  rw [grounds, groundsFrom_concat, List.nil_append]
  simp only [groundsFrom, List.append_nil]
  rfl

/-! ## The invariant -/

/-- How a stack stands after a run, where `given` is the subscription that came first. -/
structure Served (given : Option Subscription) (grounds : List Ground)
    (run : Run ω ν α (stack layers C.subscriber).State) : Prop where
  unheard : given = none → run.state = (stack layers C.subscriber).init ∧ grounds = []
    ∧ seedFailed run.trace = false
  handle : leadsTo? (mindIn C layers run.state).1
    = if seedFailed run.trace then none else leadsTo? given
  wired : WiredTo C layers (leadsTo? given) run.state
  calls : ∀ channel, callsTo channel run.trace = grounds.filterMap
    (Ground.call? (if seedFailed run.trace then none else leadsTo? given) (leadsTo? given) channel)

/-- What a stimulus comes to that brings no first subscription: the handle and the wires stay, no
seed fails, and the calls are those that the grounds lead to. -/
structure Serves (given : Option Subscription) (state : (stack layers C.subscriber).State)
    (grounds : List Ground) (outcome : Outcome ω ν α (stack layers C.subscriber).State) : Prop where
  unheard : given = none → outcome.state = state ∧ grounds = []
  held : (mindIn C layers outcome.state).1 = (mindIn C layers state).1
  wired : WiredTo C layers (leadsTo? given) outcome.state
  seedless : seedFailed outcome.trace = false
  calls : ∀ channel, callsTo channel outcome.trace = grounds.filterMap
    (Ground.call? (leadsTo? (mindIn C layers state).1) (leadsTo? given) channel)

variable {C layers} {given : Option Subscription}

lemma Served.extend {grounds more : List Ground} {run : Run ω ν α (stack layers C.subscriber).State}
    {outcome : Outcome ω ν α (stack layers C.subscriber).State}
    (served : Served C layers given grounds run)
    (serves : Serves C layers given run.state more outcome) :
    Served C layers given (grounds ++ more) (run.extend outcome) := by
  have hfailed : seedFailed (run.extend outcome).trace = seedFailed run.trace := by
    simp only [Run.extend, seedFailed_append, serves.seedless, Bool.or_false]
  refine ⟨fun hnone => ?_, ?_, serves.wired, fun channel => ?_⟩
  · obtain ⟨hstate, hgrounds, hcalm⟩ := served.unheard hnone
    obtain ⟨hstays, hnothing⟩ := serves.unheard hnone
    exact ⟨hstays.trans hstate, by rw [hgrounds, hnothing]; rfl, hfailed.trans hcalm⟩
  · rw [hfailed, ← served.handle]
    exact congrArg leadsTo? serves.held
  · rw [hfailed, List.filterMap_append, ← served.calls channel, ← served.handle,
      ← serves.calls channel]
    exact callsTo_append channel run.trace outcome.trace

/-! ## Calls between signals -/

lemma callsTo_respond_call (call : Call) (state : (stack layers C.subscriber).State) (env : ω)
    (channel : ℕ) :
    callsTo channel ((stack layers C.subscriber).respond (.call call) state env).trace
      = if leadsTo? (mindIn C layers state).1 = some channel then [call] else [] := by
  simp only [Subscriber.respond, Subscriber.call?, handle_stack]
  cases (mindIn C layers state).1 with
  | none => rfl
  | some held =>
      rw [Option.map_some, Option.getD_some, callsTo, List.filterMap_map]
      exact filterMap_callTo?_called channel held [call]

lemma seedFailed_respond_call (S : Subscriber ω ν α) (call : Call) (state : S.State) (env : ω) :
    seedFailed (S.respond (.call call) state env).trace = false := by
  refine (congrArg (List.any · HookRun.isVoid) (List.filterMap_eq_nil_iff.mpr ?_)).trans rfl
  intro moment h
  obtain ⟨channel, call', hevent⟩ := S.eq_called_of_mem_respond h
  simp only [hevent, Event.hookRun?]

lemma serves_call (call : Call) {state : (stack layers C.subscriber).State}
    (unheld : given = none → (mindIn C layers state).1 = none)
    (wired : WiredTo C layers (leadsTo? given) state) (env : ω) :
    Serves C layers given state (groundsOf C layers given (.call call) state env)
      ((stack layers C.subscriber).respond (.call call) state env) := by
  refine ⟨fun hnone => ⟨rfl, ?_⟩, rfl, wired, seedFailed_respond_call _ call _ _, fun channel => ?_⟩
  · simp only [groundsOf, unheld hnone]
    rfl
  · rw [callsTo_respond_call]
    simp only [groundsOf]
    cases (mindIn C layers state).1 with
    | none => rfl
    | some held =>
        simp only [Option.toList_some, List.map_cons, List.map_nil, List.filterMap_cons,
          Ground.call?, List.filterMap_nil]
        split <;> rfl

/-! ## Signals -/

lemma serves_undue {layer : Layer ω ν α} {signal : Signal α}
    {state : (stack (layer :: layers) C.subscriber).State}
    (undue : (layer.sessionOf (stack layers C.subscriber) state).accepts signal = false)
    (later : given = none → signal.subscription? = none)
    (wired : WiredTo C (layer :: layers) (leadsTo? given) state) (env : ω) :
    Serves C (layer :: layers) given state
      (groundsOf C (layer :: layers) given (.signal signal) state env)
      ((stack (layer :: layers) C.subscriber).receive signal state env) := by
  obtain ⟨hstate, hground, hcalm, hcalls⟩ :
      ((stack (layer :: layers) C.subscriber).receive signal state env).state = state
        ∧ C.grounds (layers.length + 1) (mindIn C (layer :: layers) state)
            ((stack (layer :: layers) C.subscriber).receive signal state env).trace = []
        ∧ seedFailed ((stack (layer :: layers) C.subscriber).receive signal state env).trace = false
        ∧ ∀ channel, callsTo channel
            ((stack (layer :: layers) C.subscriber).receive signal state env).trace
          = signal.subscription?.toList.filterMap fun subscription =>
              Ground.call? none none channel (.refused subscription) :=
    receive_onto_undue undue (mindIn C (layer :: layers) state) (Prod.snd state) env
  have hgrounds : groundsOf C (layer :: layers) given (.signal signal) state env
      = signal.subscription?.toList.map .refused := by
    have hrefused : (given.bind fun _ => signal.subscription?) = signal.subscription? := by
      cases given with
      | none => exact (later rfl).symm
      | some _ => rfl
    simp only [groundsOf, List.length_cons]
    rw [hrefused, hground, List.append_nil]
  rw [hgrounds]
  refine ⟨fun hnone => ⟨hstate, ?_⟩, by rw [hstate], hstate.symm ▸ wired, hcalm, fun channel => ?_⟩
  · rw [later hnone]
    rfl
  · rw [hcalls, List.filterMap_map]
    rfl

lemma serves_other {signal : Signal α} (other : signal.kind ≠ .subscribe)
    {state : (stack layers C.subscriber).State}
    (begun : given ≠ none) (wired : WiredTo C layers (leadsTo? given) state) (env : ω) :
    Serves C layers given state (groundsOf C layers given (.signal signal) state env)
      ((stack layers C.subscriber).receive signal state env) := by
  have routed := routes_stack C layers env other fun _ => wired
  have hgrounds : groundsOf C layers given (.signal signal) state env
      = C.grounds layers.length (mindIn C layers state)
          ((stack layers C.subscriber).receive signal state env).trace := by
    simp only [groundsOf, Signal.subscription?_eq_none other]
    cases given <;> rfl
  rw [hgrounds]
  exact ⟨fun hnone => absurd hnone begun, routed.held, routed.wired _ wired, routed.seedless,
    routed.explained⟩

lemma served_opening {grounds : List Ground} {run : Run ω ν α (stack layers C.subscriber).State}
    (served : Served C layers none grounds run) (subscription : Subscription) :
    Served C layers (some subscription)
      (grounds ++ groundsOf C layers none (.signal (.subscribe subscription)) run.state run.env)
      (run.extend
        ((stack layers C.subscriber).receive (.subscribe subscription) run.state run.env)) := by
  obtain ⟨hstate, rfl, hcalm⟩ := served.unheard rfl
  have hsilent := served.calls
  obtain ⟨state, env, trace, results⟩ := run
  obtain rfl : state = (stack layers C.subscriber).init := hstate
  have opened := (opens_stack C layers).opened subscription env
  have hground : [] ++ groundsOf C layers none (.signal (.subscribe subscription))
        (stack layers C.subscriber).init env
      = C.grounds layers.length (mindIn C layers (stack layers C.subscriber).init)
          ((stack layers C.subscriber).receive (.subscribe subscription)
            (stack layers C.subscriber).init env).trace := rfl
  rw [hground]
  generalize (stack layers C.subscriber).receive (.subscribe subscription)
    (stack layers C.subscriber).init env = outcome at opened ⊢
  have hfailed : seedFailed (trace ++ outcome.trace) = seedFailed outcome.trace := by
    rw [seedFailed_append, show seedFailed trace = false from hcalm, Bool.false_or]
  refine ⟨by simp, ?_, opened.wired, fun channel => ?_⟩
  · simp only [Run.extend, hfailed]
    exact opened.handle
  · have explained := opened.explained (leadsTo? (some subscription)) channel
    rw [opened.handle] at explained
    simp only [Run.extend, hfailed]
    rw [callsTo_append, hsilent channel]
    exact explained

lemma served_signal {layer : Layer ω ν α} {grounds : List Ground}
    {run : Run ω ν α (stack (layer :: layers) C.subscriber).State}
    (served : Served C (layer :: layers) given grounds run)
    (parent : (layer.sessionOf (stack layers C.subscriber) run.state).parent? = given)
    (signal : Signal α) :
    Served C (layer :: layers) (given.or signal.subscription?)
      (grounds ++ groundsOf C (layer :: layers) given (.signal signal) run.state run.env)
      (run.extend ((stack (layer :: layers) C.subscriber).receive signal run.state run.env)) := by
  cases hoffered : signal.subscription? with
  | none =>
      have other : signal.kind ≠ .subscribe := by
        cases signal <;> simp [Signal.kind, Signal.subscription?] at hoffered ⊢
      rw [Option.or_none]
      cases given with
      | none =>
          -- A layer that was never subscribed to drops everything.
          have undue := Session.accepts_of_parent?_eq_none parent other
          exact served.extend (serves_undue undue (fun _ => hoffered) served.wired run.env)
      | some given => exact served.extend (serves_other other (by simp) served.wired run.env)
  | some subscription =>
      obtain rfl : signal = .subscribe subscription := by
        cases signal <;> simp [Signal.subscription?] at hoffered ⊢
        exact hoffered
      cases given with
      | none => exact served_opening served subscription
      | some given =>
          exact served.extend (serves_undue
            (Session.accepts_subscribe_of_parent? parent subscription) (by simp) served.wired
            run.env)

/-- **The invariant is kept**: after any stimuli the calls are those that the grounds lead to. -/
theorem served_history (C : Consumer α) (layer : Layer ω ν α) (layers : List (Layer ω ν α))
    (stimuli : List (Stimulus α)) (env : ω) :
    Served C (layer :: layers) (subscriptions stimuli).head?
      (grounds C (layer :: layers) stimuli env)
      ((stack (layer :: layers) C.subscriber).history stimuli env) := by
  induction stimuli using List.reverseRecOn with
  | nil =>
      refine ⟨fun _ => ⟨rfl, rfl, rfl⟩, ?_, trivial, fun _ => rfl⟩
      exact congrArg leadsTo? (opens_stack C (layer :: layers)).unheld
  | append_singleton past stimulus served =>
      have parent := layer.parent?_history (stack layers C.subscriber) past env
      rw [grounds_concat, Subscriber.history_concat, subscriptions_concat, List.head?_append,
        Option.head?_toList]
      generalize (subscriptions past).head? = given at parent served ⊢
      cases stimulus with
      | call call =>
          refine Option.or_none ▸ served.extend (serves_call call (fun hnone => ?_) served.wired _)
          rw [(served.unheard hnone).1]
          exact (opens_stack C (layer :: layers)).unheld
      | signal signal => exact served_signal served parent signal

/-! ## Other subscriptions -/

lemma filterMap_refused?_grounds (depth : ℕ) (mind : C.Mind) (trace : List (Moment ν α)) :
    (C.grounds depth mind trace).filterMap Ground.refused? = [] := by
  induction trace generalizing mind with
  | nil => rfl
  | cons moment trace ih =>
      simp only [Consumer.grounds]
      cases moment.signalAt? depth with
      | some signal =>
          simp only [List.filterMap_append, ih, List.append_nil, Consumer.asks]
          split
          · rw [List.filterMap_map]
            exact List.filterMap_eq_nil_iff.mpr fun _ _ => rfl
          · rfl
      | none =>
          simp only [List.filterMap_append, ih, List.append_nil, Event.ground?]
          cases moment.event.hookRun? with
          | none => rfl
          | some run =>
              simp only [Option.bind_some]
              split <;> rfl

lemma filterMap_refused? (C : Consumer α) (layers : List (Layer ω ν α))
    (stimuli : List (Stimulus α)) (env : ω) :
    (grounds C layers stimuli env).filterMap Ground.refused? = (subscriptions stimuli).tail := by
  induction stimuli using List.reverseRecOn with
  | nil => rfl
  | append_singleton past stimulus ih =>
      have hmore : ∀ given state env, (groundsOf C layers given stimulus state env).filterMap
          Ground.refused? = (given.bind fun _ => stimulus.subscription?).toList := by
        intro given state env
        cases stimulus with
        | call call =>
            simp only [groundsOf]
            cases given <;> cases (mindIn C layers state).1 <;> rfl
        | signal signal =>
            simp only [groundsOf, List.filterMap_append, filterMap_refused?_grounds,
              List.append_nil]
            have hsame : ∀ offered : Option Subscription,
                (offered.toList.map Ground.refused).filterMap Ground.refused? = offered.toList := by
              intro offered
              cases offered <;> rfl
            exact hsame _
      rw [grounds_concat, List.filterMap_append, ih, hmore, subscriptions_concat]
      cases subscriptions past with
      | nil => cases stimulus.subscription? <;> rfl
      | cons first rest => rfl

lemma filterMap_call?_eq_replicate {handle parent : Option ℕ} {channel : ℕ}
    (unheld : handle ≠ some channel) (strange : parent ≠ some channel) (given : List Ground) :
    given.filterMap (Ground.call? handle parent channel)
      = List.replicate ((given.filterMap Ground.refused?).countP (·.channel? = some channel))
          .cancel := by
  induction given with
  | nil => rfl
  | cons ground given ih =>
      cases ground with
      | asked call => simpa [List.filterMap_cons, Ground.call?, unheld, Ground.refused?] using ih
      | failure => simpa [List.filterMap_cons, Ground.call?, strange, Ground.refused?] using ih
      | refused subscription =>
          simp only [List.filterMap_cons, Ground.call?, Ground.refused?, ih]
          by_cases h : subscription.channel? = some channel
          · simp [h, List.replicate_succ]
          · simp [h]

lemma callsTo_other (C : Consumer α) (layer : Layer ω ν α) (layers : List (Layer ω ν α))
    (stimuli : List (Stimulus α)) (env : ω) {channel : ℕ}
    (strange : leadsTo? (subscriptions stimuli).head? ≠ some channel) :
    callsTo channel ((stack (layer :: layers) C.subscriber).history stimuli env).trace
      = List.replicate ((subscriptions stimuli).countP (·.channel? = some channel)) .cancel := by
  have served := served_history C layer layers stimuli env
  have unheld : (if seedFailed ((stack (layer :: layers) C.subscriber).history stimuli env).trace
      then none else leadsTo? (subscriptions stimuli).head?) ≠ some channel := by
    split
    · exact (Option.some_ne_none channel).symm
    · exact strange
  rw [served.calls, filterMap_call?_eq_replicate unheld strange, filterMap_refused?]
  cases hoffered : subscriptions stimuli with
  | nil => rfl
  | cons first rest =>
      rw [hoffered] at strange
      rw [List.tail_cons, List.countP_cons_of_neg (by simpa [leadsTo?] using strange)]

end Layer

/-! ## Parents -/

/-- A subscription that leads where the given one does, or nowhere. -/
def Subscription.LeadsBack (given : Option Subscription) (parent : Subscription) : Prop :=
  parent.channel? = none ∨ parent.channel? = leadsTo? given

/-- What holds of all subscriptions that the layers of a subscriber have for a parent. -/
def Subscriber.Parents (S : Subscriber ω ν α) (Fit : Subscription → Prop) (state : S.State) :
    Prop :=
  ∀ probe ∈ S.probes state, ∀ parent, probe.parent = some parent → Fit parent

/-- A signal brings no subscription, or one that is fit for a parent. -/
def Signal.Brings (Fit : Subscription → Prop) (signal : Signal α) : Prop :=
  ∀ subscription, signal.subscription? = some subscription → Fit subscription

lemma Conduct.brings {hooks : Hooks ω ν α σ} {config : Config} {session session' : Session σ}
    {signal : Signal α} {events : List (Standing × Event ν α)} {exit : Exit α}
    (conduct : Conduct hooks config session signal events session' exit)
    {Fit : Subscription → Prop} (inert : Fit .inert) (relay : ∀ p, Fit p → Fit (.relay p))
    (brings : signal.Brings Fit) : ∀ s ∈ exit.signals, s.Brings Fit := by
  cases conduct with
  | refused undue => simp [Exit.signals]
  | passed due note there state =>
      refine List.forall_mem_singleton.mpr fun subscription h => ?_
      cases signal with
      | subscribe parent =>
          obtain rfl : Subscription.relay parent = subscription := Option.some.inj h
          exact relay parent (brings parent rfl)
      | _ => simp [Signal.relayed, Signal.subscription?] at h
  | replaced due note fails route state =>
      intro s hmem subscription h
      cases signal <;> simp [Exit.signals, Signal.substitutes] at hmem
      case subscribe parent =>
        rcases hmem with rfl | rfl
        · obtain rfl : Subscription.inert = subscription := Option.some.inj h
          exact inert
        · simp [Signal.subscription?] at h
      all_goals
        subst hmem
        simp [Signal.subscription?] at h
  | escaped due note fails route state => simp [Exit.signals]

namespace Subscriber

/-- Fit subscriptions make fit parents. -/
def Fosters (S : Subscriber ω ν α) (Fit : Subscription → Prop) : Prop :=
  ∀ ⦃signal state⦄ (env : ω), signal.Brings Fit → S.Parents Fit state →
    S.Parents Fit (S.receive signal state env).state

lemma Fosters.receiveAll {S : Subscriber ω ν α} {Fit : Subscription → Prop}
    (fosters : S.Fosters Fit) {signals : List (Signal α)} (brings : ∀ s ∈ signals, s.Brings Fit)
    {state : S.State} (env : ω) (parents : S.Parents Fit state) :
    S.Parents Fit (S.receiveAll signals state env).state := by
  refine receiveAll_induction
    (motive := fun signals state outcome => (∀ s ∈ signals, s.Brings Fit) →
      S.Parents Fit state → S.Parents Fit outcome.state)
    ?nil ?stop ?go signals state env brings parents
  case nil => exact fun _ _ _ parents => parents
  case stop =>
    intro signal signals state env _ _ brings parents
    exact fosters env (brings signal List.mem_cons_self) parents
  case go =>
    intro signal signals state env rest _ ih brings parents
    obtain ⟨hsignal, hsignals⟩ := List.forall_mem_cons.mp brings
    exact ih hsignals (fosters env hsignal parents)

end Subscriber

namespace Layer

lemma fosters_onto (layer : Layer ω ν α) {actual : Subscriber ω ν α} {Fit : Subscription → Prop}
    (inert : Fit .inert) (relay : ∀ p, Fit p → Fit (.relay p)) (fosters : actual.Fosters Fit) :
    (layer.onto actual).Fosters Fit := by
  rintro signal ⟨session, below⟩ env brings parents
  obtain ⟨hsession, hbelow⟩ := List.forall_mem_cons.mp parents
  have conduct := layer.conduct session signal env
  have passed := fosters.receiveAll (conduct.brings inert relay brings)
    (layer.turn session signal env).env hbelow
  rw [receive_onto]
  refine List.forall_mem_cons.mpr ⟨fun parent h => ?_, passed⟩
  have hparent : session.parent?.or signal.subscription? = some parent :=
    conduct.parent?_eq.symm.trans h
  rcases Option.or_eq_some_iff.mp hparent with hold | ⟨_, hnew⟩
  · exact hsession parent hold
  · exact brings parent hnew

lemma fosters_stack (C : Consumer α) {Fit : Subscription → Prop} (inert : Fit .inert)
    (relay : ∀ p, Fit p → Fit (.relay p)) : ∀ layers : List (Layer ω ν α),
    (stack layers C.subscriber).Fosters Fit
  | [] => fun _ _ _ _ _ => List.forall_mem_nil _
  | layer :: layers => layer.fosters_onto inert relay (fosters_stack C inert relay layers)

lemma parents_init (C : Consumer α) (Fit : Subscription → Prop) : ∀ layers : List (Layer ω ν α),
    (stack layers C.subscriber).Parents Fit (stack layers C.subscriber).init
  | [] => List.forall_mem_nil _
  | _ :: layers => List.forall_mem_cons.mpr
      ⟨fun parent h => absurd h.symm (Option.some_ne_none parent), parents_init C Fit layers⟩

lemma state_of_offered_again (C : Consumer α) (layer : Layer ω ν α) (layers : List (Layer ω ν α))
    {past : List (Stimulus α)} (again : subscriptions past ≠ []) (subscription : Subscription)
    (env : ω) :
    ((stack (layer :: layers) C.subscriber).after past (.signal (.subscribe subscription))
        env).state
      = ((stack (layer :: layers) C.subscriber).history past env).state := by
  obtain ⟨first, rest, hpast⟩ := List.exists_cons_of_ne_nil again
  have parent := layer.parent?_history (stack layers C.subscriber) past env
  rw [hpast] at parent
  exact congrArg Outcome.state (receive_onto_of_not_accepts
    (Session.accepts_subscribe_of_parent? parent subscription)
    (Prod.snd ((stack (layer :: layers) C.subscriber).history past env).state)
    ((stack (layer :: layers) C.subscriber).history past env).env)

/-- The parents of all layers lead back to the first subscription, or nowhere. -/
lemma parents_history (C : Consumer α) (layer : Layer ω ν α) (layers : List (Layer ω ν α))
    (stimuli : List (Stimulus α)) (env : ω) :
    (stack (layer :: layers) C.subscriber).Parents
      (Subscription.LeadsBack (subscriptions stimuli).head?)
      ((stack (layer :: layers) C.subscriber).history stimuli env).state := by
  induction stimuli using List.reverseRecOn with
  | nil => exact parents_init C _ (layer :: layers)
  | append_singleton past stimulus ih =>
      have served := served_history C layer layers past env
      rw [subscriptions_concat, List.head?_append, Option.head?_toList, Subscriber.history_concat]
      cases hpast : subscriptions past with
      | nil =>
          -- Nothing has happened yet, so only what the stimulus brings can become a parent.
          rw [hpast] at served
          have fosters : (stack (layer :: layers) C.subscriber).Fosters
              (Subscription.LeadsBack stimulus.subscription?) :=
            fosters_stack C (Or.inl rfl) (fun _ h => h) (layer :: layers)
          have parents := parents_init C (Subscription.LeadsBack stimulus.subscription?)
            (layer :: layers)
          rw [← (served.unheard rfl).1] at parents
          cases stimulus with
          | call call => exact parents
          | signal signal =>
              refine fosters _ (fun subscription h => Or.inr ?_) parents
              exact (congrArg leadsTo? h).symm
      | cons first rest =>
          rw [hpast] at ih
          cases stimulus with
          | call call => exact ih
          | signal signal =>
              -- A further subscription need not be fit, but it leaves the stack as it is.
              cases signal with
              | subscribe subscription =>
                  have again : subscriptions past ≠ [] := by simp [hpast]
                  have hstate := state_of_offered_again C layer layers again subscription env
                  simp only [Run.extend]
                  rw [hstate]
                  exact ih
              | _ =>
                  have fosters : (stack (layer :: layers) C.subscriber).Fosters
                      (Subscription.LeadsBack (some first)) :=
                    fosters_stack C (Or.inl rfl) (fun _ h => h) (layer :: layers)
                  exact fosters _ (fun subscription h => by simp [Signal.subscription?] at h) ih

/-! ## The traffic of a run -/

/-- **The traffic towards the source** in a run of a stack that stimuli come to. -/
structure Traffic (C : Consumer α) (layer : Layer ω ν α) (layers : List (Layer ω ν α))
    (stimuli : List (Stimulus α)) (env : ω)
    (run : Run ω ν α (stack (layer :: layers) C.subscriber).State) : Prop where
  /-- On every channel there are the calls that the grounds lead to, in their order.  The calls of
  the consumer go to the first subscription, or nowhere if a seed failed; the cancellations over
  items go to the first subscription, and those over refusals to what was refused. -/
  calls : ∀ channel, callsTo channel run.trace
    = (grounds C (layer :: layers) stimuli env).filterMap (Ground.call?
        (if seedFailed run.trace then none else leadsTo? (subscriptions stimuli).head?)
        (leadsTo? (subscriptions stimuli).head?) channel)
  /-- Every other subscription is cancelled once for each time that it was offered. -/
  others : ∀ channel, leadsTo? (subscriptions stimuli).head? ≠ some channel →
    callsTo channel run.trace
      = List.replicate ((subscriptions stimuli).countP (·.channel? = some channel)) .cancel
  /-- The first subscription is the parent of the first layer. -/
  parent : (layer.sessionOf (stack layers C.subscriber) run.state).parent?
    = (subscriptions stimuli).head?
  /-- No layer has a parent that leads elsewhere. -/
  parents : (stack (layer :: layers) C.subscriber).Parents
    (Subscription.LeadsBack (subscriptions stimuli).head?) run.state
  /-- Without the calls of the consumer every layer has the same phase, parent and state. -/
  unmoved : Twins C (layer :: layers) run.state
    ((stack (layer :: layers) C.muted.subscriber).history
      (stimuli.filter Stimulus.isSignal) env).state
  /-- A refusal changes no layer. -/
  refusals : ∀ past subscription, subscriptions past ≠ [] →
    past ++ [.signal (.subscribe subscription)] <+: stimuli →
      ((stack (layer :: layers) C.subscriber).after past (.signal (.subscribe subscription))
          env).state
        = ((stack (layer :: layers) C.subscriber).history past env).state
  /-- No call changes the standing of a layer. -/
  steady : Steady ((stack (layer :: layers) C.subscriber).standings run.state) run.trace

/-- **The traffic towards the source is the demand of the consumer and the prescribed
cancellations**, whatever is sent to a stack, in whatever order, and whenever the consumer calls. -/
theorem traffic_history (C : Consumer α) (layer : Layer ω ν α) (layers : List (Layer ω ν α))
    (stimuli : List (Stimulus α)) (env : ω) :
    Traffic C layer layers stimuli env
      ((stack (layer :: layers) C.subscriber).history stimuli env) where
  calls := (served_history C layer layers stimuli env).calls
  others _ strange := callsTo_other C layer layers stimuli env strange
  parent := layer.parent?_history (stack layers C.subscriber) stimuli env
  parents := parents_history C layer layers stimuli env
  unmoved := (twins_history C (layer :: layers) stimuli env).1
  refusals _ subscription again _ := state_of_offered_again C layer layers again subscription env
  steady := (Subscriber.still_history (isStill_stack C (layer :: layers)) stimuli env).steady

/-- The consumer asks for five and fails to get an item, over which the second layer cancels.  A
request that comes later still goes through, the second subscription is cancelled, and all is
accounted for. -/
theorem traffic_past_balking :
    let C : Consumer ℕ := .asking 5
    let second : Layer Unit Unit ℕ := balking () (.mk 0 (.message "stop"))
    let stimuli : List (Stimulus ℕ) := [.signal (.subscribe (.direct 0)), .signal (.next 1),
      .call (.request 3), .signal (.subscribe (.direct 7))]
    let run := (stack [plain, second] C.subscriber).history stimuli ()
    callsTo 0 run.trace = [.request 5, .cancel, .request 3] ∧ callsTo 7 run.trace = [.cancel]
      ∧ grounds C [plain, second] stimuli ()
          = [.asked (.request 5), .failure, .asked (.request 3), .refused (.direct 7)]
      ∧ Traffic C plain [second] stimuli () run :=
  ⟨by decide, by decide, by decide, traffic_history _ _ _ _ _⟩

end Layer

end SignalPeek
