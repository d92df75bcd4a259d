import Mathlib.Tactic.Common
import SignalPeek.Layer.Logged
import SignalPeek.Proofs.Concert
import SignalPeek.Proofs.Conduct
import SignalPeek.Proofs.Travel
import SignalPeek.Publisher

/-!
# Transparency

Layers whose hooks never fail are not noticed from either end: what the consumer hears and what the
source is asked for, in the order in which both happen, are the same as without the layers, and so
is what escapes (`transparent_of_harmless`).

**The conversation** of a trace is what passes between the two ends: the signals to the consumer and
the calls on channel `0`, where the source listens.  A subscription that came through layers differs
from the one that the source gave out by the relays around it only, so the conversation leaves them
out, and the consumer must not look at them either (`Consumer.Impartial`): it can only call what it
holds.

**Mirroring.**  A subscriber mirrors a consumer if, for every step of the phase above, both answer
with the same conversation and the same escape (`Subscriber.Mirrors`).  A consumer mirrors itself,
and a layer without failing hooks on top of a subscriber that mirrors does so too.  A source hears
only the conversation, so it goes the same way with both: each item that it delivers depends on the
calls up to then.
-/

namespace SignalPeek

variable {ω ν α σ τ τ' : Type}

/-! ## What the two ends see -/

/-- The subscription that is left when all relays around it are taken away. -/
def Subscription.origin : Subscription → Subscription
  | .relay parent => parent.origin
  | subscription => subscription

lemma Subscription.channel?_origin (subscription : Subscription) :
    subscription.origin.channel? = subscription.channel? := by
  induction subscription with
  | relay parent ih => exact ih
  | _ => rfl

/-- A signal without the relays that its subscription came through. -/
def Signal.unwrapped : Signal α → Signal α
  | .subscribe subscription => .subscribe subscription.origin
  | signal => signal

@[simp] lemma Signal.unwrapped_relayed (signal : Signal α) :
    signal.relayed.unwrapped = signal.unwrapped := by
  cases signal <;> rfl

/-- What passes between the two ends of a stream. -/
inductive Exchange (α : Type) where
  /-- The consumer is given a signal. -/
  | heard (signal : Signal α)
  /-- The source is called. -/
  | asked (call : Call)

def Exchange.call? : Exchange α → Option Call
  | .heard _ => none
  | .asked call => some call

/-- What passes at a moment, where the consumer comes after so many layers. -/
def Moment.exchange? (depth : ℕ) (moment : Moment ν α) : Option (Exchange α) :=
  match moment.event with
  | .received signal => if moment.layer = depth then some (.heard signal.unwrapped) else none
  | .called channel call => if channel = 0 then some (.asked call) else none
  | _ => none

def conversation (depth : ℕ) (trace : List (Moment ν α)) : List (Exchange α) :=
  trace.filterMap (·.exchange? depth)

@[simp] lemma conversation_append (depth : ℕ) (first second : List (Moment ν α)) :
    conversation depth (first ++ second)
      = conversation depth first ++ conversation depth second := by
  simp [conversation]

@[simp] lemma conversation_succ_map_beneath (depth : ℕ) (above : Standing)
    (trace : List (Moment ν α)) :
    conversation (depth + 1) (trace.map (·.beneath above)) = conversation depth trace := by
  have h : (fun moment : Moment ν α => (moment.beneath above).exchange? (depth + 1))
      = (·.exchange? depth) := by
    funext moment
    simp only [Moment.exchange?, Moment.beneath, Nat.add_right_cancel_iff]
  rw [conversation, List.filterMap_map]
  exact congrArg (List.filterMap · trace) h

lemma callsTo_zero_eq (depth : ℕ) (trace : List (Moment ν α)) :
    callsTo 0 trace = (conversation depth trace).filterMap Exchange.call? := by
  have h : (fun moment : Moment ν α => moment.callTo? 0)
      = fun moment => (moment.exchange? depth).bind Exchange.call? := by
    funext ⟨layer, standings, event⟩
    cases event with
    | received signal =>
        simp only [Moment.callTo?, Moment.exchange?]
        split <;> rfl
    | called channel call =>
        simp only [Moment.callTo?, Moment.exchange?]
        split <;> rfl
    | _ => rfl
  rw [callsTo, conversation, List.filterMap_filterMap, h]

/-! ## Outcomes that agree -/

/-- An outcome below so many layers and one without them agree: they show the same conversation, let
the same error escape, and leave states that are alike. -/
structure Outcome.Agrees (depth : ℕ) (outcome : Outcome ω ν α τ) (direct : Outcome ω ν α τ')
    (Alike : τ → τ' → Prop) : Prop where
  conversation : conversation depth outcome.trace = SignalPeek.conversation 0 direct.trace
  escaped : outcome.escaped = direct.escaped
  alike : Alike outcome.state direct.state

namespace Outcome.Agrees

variable {depth : ℕ} {Alike Alike' : τ → τ' → Prop}

lemma idle {state : τ} {state' : τ'} (alike : Alike state state') (env env' : ω) :
    (Outcome.idle state env : Outcome ω ν α τ).Agrees depth (.idle state' env') Alike :=
  ⟨rfl, rfl, alike⟩

lemma callsTo {outcome : Outcome ω ν α τ} {direct : Outcome ω ν α τ'}
    (agrees : outcome.Agrees depth direct Alike) :
    SignalPeek.callsTo 0 outcome.trace = SignalPeek.callsTo 0 direct.trace := by
  rw [callsTo_zero_eq depth, callsTo_zero_eq 0, agrees.conversation]

lemma mono {outcome : Outcome ω ν α τ} {direct : Outcome ω ν α τ'}
    (agrees : outcome.Agrees depth direct Alike) (weaker : ∀ s s', Alike s s' → Alike' s s') :
    outcome.Agrees depth direct Alike' :=
  ⟨agrees.conversation, agrees.escaped, weaker _ _ agrees.alike⟩

/-- Outcomes that agree go on alike, or both end with the same escape. -/
lemma andThen {first : Outcome ω ν α τ} {direct : Outcome ω ν α τ'}
    (agrees : first.Agrees depth direct Alike) (weaker : ∀ s s', Alike s s' → Alike' s s')
    {rest : τ → ω → Outcome ω ν α τ} {rest' : τ' → ω → Outcome ω ν α τ'}
    (hrest : ∀ {s s'} (env env'), Alike s s' → (rest s env).Agrees depth (rest' s' env') Alike') :
    (first.andThen rest).Agrees depth (direct.andThen rest') Alike' := by
  cases hescaped : first.escaped with
  | some fatal =>
      rw [andThen_of_escaped hescaped, andThen_of_escaped (agrees.escaped ▸ hescaped)]
      exact agrees.mono weaker
  | none =>
      rw [andThen_of_not_escaped hescaped, andThen_of_not_escaped (agrees.escaped ▸ hescaped)]
      have later := hrest first.env direct.env agrees.alike
      refine ⟨?_, later.escaped, later.alike⟩
      simp only [precededBy, conversation_append, agrees.conversation, later.conversation]

end Outcome.Agrees

/-! ## Subscribers that mirror -/

namespace Subscriber

/-- Whenever the phase above steps on, the subscriber answers like the one beside it, which is sent
the same signal up to relays. -/
def Mirrors (S : Subscriber ω ν α) (depth : ℕ) (B : Subscriber ω ν α)
    (Alike : Phase → S.State → B.State → Prop) : Prop :=
  ∀ ⦃phase phase' : Phase⦄ ⦃signal signal' : Signal α⦄ ⦃state : S.State⦄ ⦃state' : B.State⦄
    (env env' : ω), Lead phase signal phase' → signal.unwrapped = signal'.unwrapped →
      Alike phase state state' →
      (S.receive signal state env).Agrees depth (B.receive signal' state' env') (Alike phase')

def Kin {S B : Subscriber ω ν α} (Alike : Phase → S.State → B.State → Prop) (state : S.State)
    (state' : B.State) : Prop :=
  ∃ phase, Alike phase state state'

lemma Mirrors.receiveAll {S B : Subscriber ω ν α} {depth : ℕ}
    {Alike : Phase → S.State → B.State → Prop} (mirrors : S.Mirrors depth B Alike)
    {phase phase' : Phase} {signals : List (Signal α)} (led : Led phase signals phase')
    {state : S.State} {state' : B.State} (env env' : ω) (alike : Alike phase state state') :
    (S.receiveAll signals state env).Agrees depth (B.receiveAll signals state' env')
      (Kin Alike) := by
  induction led generalizing state state' env env' with
  | rest phase => exact .idle ⟨phase, alike⟩ env env'
  | step lead led ih =>
      exact (mirrors env env' lead rfl alike).andThen (fun _ _ h => ⟨_, h⟩) ih

end Subscriber

namespace Consumer

/-- A consumer that takes a relay of a subscription for the subscription.  All that a consumer can
do with a handle is to make calls on it, and these end up in the same place. -/
def Impartial (C : Consumer α) : Prop :=
  ∀ parent state, C.react (.subscribe (.relay parent)) state = C.react (.subscribe parent) state

lemma Impartial.react_unwrapped {C : Consumer α} (impartial : C.Impartial) (signal : Signal α)
    (state : C.State) : C.react signal.unwrapped state = C.react signal state := by
  cases signal with
  | subscribe subscription =>
      induction subscription with
      | relay parent ih => exact ih.trans (impartial parent state).symm
      | _ => rfl
  | _ => rfl

/-- States of a consumer that differ in the relays around the handle only. -/
def Alike (C : Consumer α) (state state' : (C.subscriber : Subscriber ω ν α).State) : Prop :=
  Option.map Subscription.origin (Prod.fst state) = Option.map Subscription.origin (Prod.fst state')
    ∧ Prod.snd state = Prod.snd state'

lemma origin_holding {signal signal' : Signal α} (hsignal : signal.unwrapped = signal'.unwrapped)
    {held held' : Option Subscription}
    (hheld : held.map Subscription.origin = held'.map Subscription.origin) :
    (holding signal held).map Subscription.origin
      = (holding signal' held').map Subscription.origin := by
  cases signal <;> cases signal' <;> simp_all [holding, Signal.unwrapped]

lemma events_eq_of_origin {reaction : Reaction τ} {held held' : Option Subscription}
    (h : held.map Subscription.origin = held'.map Subscription.origin) :
    (reaction.events held : List (Event ν α)) = reaction.events held' := by
  have hcalled : ∀ held : Option Subscription,
      (held.map fun subscription => (subscription.called reaction.calls : List (Event ν α)))
        = (held.map Subscription.origin).map (·.called reaction.calls) := by
    intro held
    rw [Option.map_map]
    congr 1
    funext subscription
    simp only [Function.comp, Subscription.called, subscription.channel?_origin]
  rw [Reaction.events, hcalled, h, ← hcalled, Reaction.events]

lemma mirrors_self {C : Consumer α} (impartial : C.Impartial) :
    (C.subscriber : Subscriber ω ν α).Mirrors 0 C.subscriber (fun _ => C.Alike) := by
  rintro phase phase' signal signal' ⟨held, own⟩ ⟨held', own'⟩ env env' lead hsignal ⟨hheld, hown⟩
  obtain rfl : own = own' := hown
  have hreact : C.react signal own = C.react signal' own := by
    rw [← impartial.react_unwrapped signal, hsignal, impartial.react_unwrapped]
  have hholding := origin_holding hsignal hheld
  rw [C.receive_eq, C.receive_eq, hreact, events_eq_of_origin hholding]
  refine ⟨?_, rfl, hholding, rfl⟩
  simp [SignalPeek.conversation, Moment.exchange?, hsignal]

end Consumer

/-! ## Layers whose hooks never fail -/

/-- Hooks that never fail, in no state and over no signal.  They may change the state, and whatever
hooks share. -/
def Hooks.Harmless (hooks : Hooks ω ν α σ) : Prop :=
  ∀ (signal : Signal α) (failure : HookError), ¬ hooks.FailsOver signal failure

lemma Hooks.harmless_none : (Hooks.none : Hooks ω ν α σ).Harmless := by
  intro signal failure fails
  have there := fails.watches
  cases signal <;> simp [Hooks.watches, Hooks.none, Signal.kind] at there

lemma Hooks.harmless_logged (name : String) (itemText : α → String) (quiet : ν)
    (note : LogEntry → ν) :
    (Hooks.logged name itemText quiet note : Hooks ω ν α UInt64).Harmless := by
  rintro (_ | _ | _ | _) failure
  · rintro ⟨seed, hseed, env, hfails⟩
    obtain rfl := Option.some.inj hseed
    simp at hfails
  all_goals
    rintro ⟨hook, hhook, state, env, hfails⟩
    obtain rfl := Option.some.inj hhook
    simp at hfails

lemma Lead.phase_eq {phase phase' : Phase} {signal : Signal α} (lead : Lead phase signal phase') :
    phase' = if signal.isTerminal then .terminated else .active := by
  cases lead with
  | begins _ => rfl
  | goesOn _ => rfl
  | ends terminal => rw [if_pos terminal]

/-- Where hooks never fail, a signal that is due goes on, and at most a hook run is to be seen. -/
lemma Conduct.of_harmless {hooks : Hooks ω ν α σ} {config : Config} {session session' : Session σ}
    {signal : Signal α} {events : List (Standing × Event ν α)} {exit : Exit α}
    (conduct : Conduct hooks config session signal events session' exit)
    (harmless : hooks.Harmless) (due : session.accepts signal = true) :
    exit = .forward [signal.relayed]
      ∧ session'.phase = (if signal.isTerminal then .terminated else .active)
      ∧ ∀ shown ∈ events, ∃ run, shown.2 = .hook run := by
  cases conduct with
  | refused undue => simp [due] at undue
  | passed due note there state =>
      refine ⟨rfl, ?_, ?_⟩
      · unfold Session.after
        split <;> rfl
      · exact List.forall_mem_map.mpr (List.forall_mem_map.mpr fun note _ => ⟨_, rfl⟩)
  | replaced due note fails route state => exact absurd fails (harmless signal _)
  | escaped due note fails route state => exact absurd fails (harmless signal _)

namespace Layer

lemma conversation_ownMoments {layer : Layer ω ν α} {actual : Subscriber ω ν α} {signal : Signal α}
    {session : Session layer.State} {env : ω}
    (h : ∀ shown ∈ (layer.turn session signal env).events, ∃ run, shown.2 = .hook run)
    (depth : ℕ) (below : actual.State) :
    conversation (depth + 1) (layer.ownMoments actual signal session below env) = [] := by
  refine List.filterMap_eq_nil_iff.mpr (List.forall_mem_map.mpr ?_)
  rintro ⟨standing, event⟩ hmem
  rcases List.mem_cons.mp hmem with harrival | hmem
  · obtain ⟨rfl, rfl⟩ := Prod.mk.inj harrival
    simp [Moment.exchange?]
  · obtain ⟨run, rfl : event = .hook run⟩ := h _ hmem
    rfl

/-- A layer is alike to what a subscriber is like below it if it stands where the phase above does.
-/
def Reflecting (layer : Layer ω ν α) {S B : Subscriber ω ν α}
    (Alike : Phase → S.State → B.State → Prop) (phase : Phase) (state : (layer.onto S).State)
    (state' : B.State) : Prop :=
  (layer.sessionOf S state).phase = phase ∧ Alike phase (Prod.snd state) state'

/-- **A layer whose hooks never fail is not noticed.** -/
lemma mirrors_onto {layer : Layer ω ν α} (harmless : layer.hooks.Harmless)
    {S B : Subscriber ω ν α} {depth : ℕ} {Alike : Phase → S.State → B.State → Prop}
    (mirrors : S.Mirrors depth B Alike) :
    (layer.onto S).Mirrors (depth + 1) B (layer.Reflecting Alike) := by
  rintro phase phase' signal signal' ⟨session, below⟩ state' env env' lead hsignal ⟨hphase, alike⟩
  obtain ⟨hexit, hphase', hevents⟩ :=
    (layer.conduct session signal env).of_harmless harmless (lead.accepts hphase)
  have agrees := mirrors (layer.turn session signal env).env env' lead.relayed
    (signal.unwrapped_relayed.trans hsignal) alike
  have hpassed : layer.passedOn S signal session below env
      = S.receive signal.relayed below (layer.turn session signal env).env := by
    rw [passedOn, hexit]
    exact Subscriber.receiveAll_singleton _ _ _
  rw [receive_onto, hpassed, hexit]
  refine ⟨?_, agrees.escaped, ?_, agrees.alike⟩
  · rw [conversation_append, conversation_ownMoments hevents, conversation_succ_map_beneath,
      agrees.conversation, List.nil_append]
  · exact hphase'.trans lead.phase_eq.symm

end Layer

/-! ## Sources -/

namespace Source

/-- A source that plays what it is told to, whatever is requested. -/
def isCued : Source α → Bool
  | .cued _ _ => true
  | _ => false

variable {S B : Subscriber ω ν α} {depth : ℕ} {Alike : Phase → S.State → B.State → Prop}

lemma agrees_deliver (mirrors : S.Mirrors depth B Alike) (items : List α) (demand : Demand)
    {state : S.State} {state' : B.State} (env env' : ω) (alike : Alike .active state state') :
    (deliver S items demand state env).Agrees depth (deliver B items demand state' env')
      (Subscriber.Kin Alike) := by
  induction items generalizing demand state state' env env' with
  | nil =>
      rw [deliver, deliver]
      split
      · exact .idle ⟨_, alike⟩ env env'
      · exact (mirrors env env' (.ends rfl) rfl alike).mono fun _ _ h => ⟨_, h⟩
  | cons item items ih =>
      rw [deliver, deliver]
      split
      · exact .idle ⟨_, alike⟩ env env'
      · -- Both came to the same calls over the item, so the demand for the next one is the same.
        have delivery := mirrors env env' (.goesOn item) rfl alike
        simp only [delivery.callsTo]
        exact delivery.andThen (fun _ _ h => ⟨_, h⟩) (ih _)

/-- **A source goes the same way with both.** -/
lemma agrees_drive (mirrors : S.Mirrors depth B Alike) (alike : Alike .init S.init B.init)
    {source : Source α} (uncued : source.isCued = false) (env env' : ω) :
    (source.drive S env).Agrees depth (source.drive B env') (Subscriber.Kin Alike) := by
  have opens : Lead .init (opening : Signal α) .active := .begins _
  cases source with
  | just items =>
      have opened := mirrors env env' opens rfl alike
      simp only [drive, opened.callsTo]
      exact opened.andThen (fun _ _ h => ⟨_, h⟩) (agrees_deliver mirrors items _)
  | empty => exact mirrors.receiveAll (.step opens (.step (.ends rfl) (.rest _))) env env' alike
  | never => exact mirrors.receiveAll (.step opens (.rest _)) env env' alike
  | failing error =>
      exact mirrors.receiveAll (.step opens (.step (.ends rfl) (.rest _))) env env' alike
  | cued signals tolerant => simp [isCued] at uncued

end Source

namespace Publisher

lemma agrees_subscribe {P : Publisher ω ν α} (uncued : P.root.isCued = false)
    (harmless : ∀ layer ∈ P.layers, layer.hooks.Harmless) {S B : Subscriber ω ν α} {depth : ℕ}
    {Alike : Phase → S.State → B.State → Prop} (mirrors : S.Mirrors depth B Alike)
    (alike : Alike .init S.init B.init) (env env' : ω) :
    (P.subscribe S env).Agrees (depth + P.layers.length) (P.root.drive B env')
      (Subscriber.Kin Alike) := by
  -- The induction goes from the top of the pipe down, and each operator moves to the subscriber.
  induction P generalizing S depth with
  | source source => exact Source.agrees_drive mirrors alike uncued env env'
  | peek base layer ih =>
      obtain ⟨hbase, hlayer⟩ := List.forall_mem_append.mp harmless
      have mirrors' := Layer.mirrors_onto (hlayer layer (List.mem_singleton_self layer)) mirrors
      have agrees := ih uncued hbase mirrors' ⟨rfl, alike⟩
      have hdepth : depth + (peek base layer).layers.length = depth + 1 + base.layers.length := by
        simp only [layers, List.length_append, List.length_singleton]
        omega
      obtain ⟨phase, _, hbelow⟩ := agrees.alike
      rw [hdepth]
      exact ⟨agrees.conversation, agrees.escaped, phase, hbelow⟩

/-- **Layers that never fail are transparent.**  Whatever the consumer does, calls and fatal errors
at any signal included: what it hears and what the source is asked for in between, and what escapes,
are the same as when it subscribes to the source itself.  So is the demand in the end, and the
consumer comes to the same state. -/
theorem transparent_of_harmless (P : Publisher ω ν α) (uncued : P.root.isCued = false)
    (harmless : ∀ layer ∈ P.layers, layer.hooks.Harmless) (C : Consumer α)
    (impartial : C.Impartial) (env : ω) :
    let peeked := P.subscribe C.subscriber env
    let direct := (Publisher.source P.root : Publisher ω ν α).subscribe C.subscriber env
    let demanded := Demand.start.afterAll (callsTo 0 peeked.trace)
    let demanded' := Demand.start.afterAll (callsTo 0 direct.trace)
    conversation P.layers.length peeked.trace = conversation 0 direct.trace
      ∧ peeked.escaped = direct.escaped
      ∧ demanded.total = demanded'.total ∧ demanded.cancelled = demanded'.cancelled
      ∧ Prod.snd peeked.state = Prod.snd direct.state := by
  intro peeked direct demanded demanded'
  have agrees :=
    agrees_subscribe uncued harmless (Consumer.mirrors_self impartial) ⟨rfl, rfl⟩ env env
  rw [Nat.zero_add] at agrees
  have hdemanded : demanded = demanded' := congrArg Demand.start.afterAll agrees.callsTo
  obtain ⟨_, _, hstate⟩ := agrees.alike
  exact ⟨agrees.conversation, agrees.escaped, by rw [hdemanded], by rw [hdemanded], hstate⟩

/-- A logging layer below a plain one, and a consumer that asks for two of three items. -/
theorem transparent_logged :
    let logging : Layer Unit (Option LogEntry) ℕ :=
      { State := UInt64, hooks := .logged "log" Nat.repr none some, config := .standard }
    let P : Publisher Unit (Option LogEntry) ℕ :=
      .peek (.peek (.source (.just [1, 2, 3])) .plain) logging
    let C : Consumer ℕ := .asking 2
    let peeked := P.subscribe C.subscriber ()
    let source : Publisher Unit (Option LogEntry) ℕ := .source P.root
    let direct := source.subscribe C.subscriber ()
    let demanded := Demand.start.afterAll (callsTo 0 peeked.trace)
    let demanded' := Demand.start.afterAll (callsTo 0 direct.trace)
    P.root.isCued = false ∧ (∀ layer ∈ P.layers, layer.hooks.Harmless) ∧ C.Impartial
      ∧ (conversation P.layers.length peeked.trace).length = 4
      ∧ conversation P.layers.length peeked.trace = conversation 0 direct.trace
      ∧ peeked.escaped = direct.escaped
      ∧ demanded.total = demanded'.total ∧ demanded.cancelled = demanded'.cancelled
      ∧ Prod.snd peeked.state = Prod.snd direct.state := by
  intro logging P C peeked source direct demanded demanded'
  have impartial : C.Impartial := fun _ _ => rfl
  have harmless : ∀ layer ∈ P.layers, layer.hooks.Harmless :=
    List.forall_mem_cons.mpr ⟨Hooks.harmless_none,
      List.forall_mem_singleton.mpr (Hooks.harmless_logged "log" Nat.repr none some)⟩
  have transparent := transparent_of_harmless P rfl harmless C impartial ()
  have heard : (conversation P.layers.length peeked.trace).length = 4 := by
    rw [transparent.1]
    decide +kernel
  exact ⟨rfl, harmless, impartial, heard, transparent⟩

end Publisher

end SignalPeek
