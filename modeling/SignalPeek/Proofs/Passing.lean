import Mathlib.Tactic.Common
import SignalPeek.Proofs.Grounds
import SignalPeek.Proofs.Legality
import SignalPeek.Proofs.Travel

/-!
# One signal through a stack

What can be said about the trace of a single signal that is sent to the first layer of a stack,
whatever the hooks do.

**Items.**  The consumer hears of no item but the one that was sent, and of this one at most once
(`Subscriber.Thrifty`).  It does hear of it if all layers are active afterwards, and then no hook
failed (`Subscriber.Whole`).

**Completion.**  If the consumer is told of it, then it went through active layers, no hook failed
on the way, and nothing was called (`Subscriber.Unhindered`).

**Failures over an item.**  After one there are errors only (`Subscriber.Quells`), and the source is
told to stop (`cancel_of_withdraws`).

**Requests** are made by the consumer alone (`Subscriber.Pulls`).

Each is a property of subscribers that a consumer has and that a layer keeps.  What a layer has to
do with all of them is said once: a signal goes through its turn smoothly, or at most an error goes
on (`Conduct.smooth_or`).
-/

namespace SignalPeek

variable {ω ν α σ : Type}

/-! ## Views -/

/-- The items that arrive at a layer in the course of a trace. -/
def itemsAt (layer : ℕ) (trace : List (Moment ν α)) : List α :=
  (signalsAt layer trace).filterMap Signal.item?

@[simp] lemma itemsAt_append (layer : ℕ) (first second : List (Moment ν α)) :
    itemsAt layer (first ++ second) = itemsAt layer first ++ itemsAt layer second := by
  simp [itemsAt]

/-- No hook fails in the course of a trace. -/
def Flawless (trace : List (Moment ν α)) : Prop :=
  ∀ moment ∈ trace, ∀ run, moment.event.hookRun? = some run → run.failure = none

lemma Flawless.append {first second : List (Moment ν α)} (hfirst : Flawless first)
    (hsecond : Flawless second) : Flawless (first ++ second) :=
  List.forall_mem_append.mpr ⟨hfirst, hsecond⟩

lemma Flawless.beneath {trace : List (Moment ν α)} (flawless : Flawless trace) (above : Standing) :
    Flawless (trace.map (·.beneath above)) :=
  List.forall_mem_map.mpr flawless

/-- The event shows that a hook for items failed recoverably. -/
def Event.withdraws (event : Event ν α) : Bool := event.hookRun?.any HookRun.withdraws

lemma Event.withdraws_iff {event : Event ν α} :
    event.withdraws = true ↔ ∃ run, event.hookRun? = some run ∧ run.withdraws = true := by
  rw [withdraws, Option.any_eq_true]

lemma Flawless.withdraws_eq_false {trace : List (Moment ν α)} (flawless : Flawless trace)
    {moment : Moment ν α} (h : moment ∈ trace) : moment.event.withdraws = false := by
  refine Bool.eq_false_iff.mpr fun hwithdraws => ?_
  obtain ⟨run, hrun, hrun'⟩ := Event.withdraws_iff.mp hwithdraws
  simp [HookRun.withdraws, flawless moment h run hrun] at hrun'

/-- Where nothing is about items, no hook for items fails. -/
lemma Confined.withdraws_eq_false {Kind : SignalKind → Prop} {trace : List (Moment ν α)}
    (confined : Confined Kind trace) (other : ¬ Kind .next) {moment : Moment ν α}
    (h : moment ∈ trace) : moment.event.withdraws = false := by
  refine Bool.eq_false_iff.mpr fun hwithdraws => ?_
  obtain ⟨run, hrun, hrun'⟩ := Event.withdraws_iff.mp hwithdraws
  have hkind : run.occasion.kind = .next := by
    simp only [HookRun.withdraws, Bool.and_eq_true, beq_iff_eq] at hrun'
    exact hrun'.1
  exact other (hkind ▸ confined.hookRun h hrun)

/-- After a hook for items has failed recoverably, only errors arrive anywhere. -/
def Quelled (trace : List (Moment ν α)) : Prop :=
  trace.Pairwise fun moment later => moment.event.withdraws = true →
    ∀ signal, later.event.received? = some signal → signal.kind = .error

lemma Confined.quelled {trace : List (Moment ν α)} (confined : Confined (· ≠ .next) trace) :
    Quelled trace := by
  refine List.pairwise_of_forall_mem_list fun moment h _ _ withdraws => ?_
  rw [confined.withdraws_eq_false (fun h => h rfl) h] at withdraws
  exact absurd withdraws Bool.false_ne_true

/-- Where a moment is not in the first part of a trace, that part comes before it. -/
lemma exists_split_of_notMem {first rest before after : List (Moment ν α)} {moment : Moment ν α}
    (h : first ++ rest = before ++ moment :: after) (hmem : moment ∉ first) :
    ∃ before', before = first ++ before' ∧ rest = before' ++ moment :: after := by
  rcases List.append_eq_append_iff.mp h with ⟨before', rfl, hrest⟩ | ⟨later, rfl, hafter⟩
  · exact ⟨before', rfl, hrest⟩
  · -- The first part goes beyond what is before the moment, by nothing or by the moment itself.
    cases later with
    | nil => exact ⟨[], by simp, by simpa using hafter.symm⟩
    | cons x later =>
        obtain ⟨rfl, _⟩ := List.cons.inj hafter
        exact absurd (List.mem_append_right _ List.mem_cons_self) hmem

namespace Subscriber

variable {S : Subscriber ω ν α} {depth : ℕ}

/-! ## Items -/

/-- No item is heard but those that are sent, and none of these twice. -/
def Thrifty (S : Subscriber ω ν α) (depth : ℕ) : Prop :=
  ∀ signal state env, (itemsAt depth (S.receive signal state env).trace).Sublist signal.item?.toList

lemma Thrifty.receiveAll (thrifty : S.Thrifty depth) (signals : List (Signal α)) (state : S.State)
    (env : ω) :
    (itemsAt depth (S.receiveAll signals state env).trace).Sublist
      (signals.filterMap Signal.item?) := by
  have hcons : ∀ (signal : Signal α) (signals : List (Signal α)),
      (signal :: signals).filterMap Signal.item?
        = signal.item?.toList ++ signals.filterMap Signal.item? := by
    intro signal signals
    rw [List.filterMap_cons]
    cases signal.item? <;> rfl
  refine receiveAll_induction
    (motive := fun signals _ outcome =>
      (itemsAt depth outcome.trace).Sublist (signals.filterMap Signal.item?))
    ?nil ?stop ?go signals state env
  case nil => exact fun _ _ => List.Sublist.refl _
  case stop =>
    intro signal signals state env _ _
    rw [hcons]
    exact (thrifty signal state env).trans (List.sublist_append_left _ _)
  case go =>
    intro signal signals state env rest _ ih
    rw [hcons, Outcome.precededBy, itemsAt_append]
    exact (thrifty signal state env).append ih

/-- Where a signal leaves all layers active, its item was heard, and no hook failed. -/
def Whole (S : Subscriber ω ν α) (depth : ℕ) : Prop :=
  ∀ signal state env, (∀ phase ∈ S.phases state, Lead phase signal .active) →
    (S.receive signal state env).escaped = none →
    (∀ phase ∈ S.phases (S.receive signal state env).state, phase = .active) →
      itemsAt depth (S.receive signal state env).trace = signal.item?.toList
        ∧ Flawless (S.receive signal state env).trace

/-! ## Completion -/

/-- Where the end is heard of, all layers were active, and until then no hook failed, nothing else
was heard and nothing was called. -/
def Unhindered (S : Subscriber ω ν α) (depth : ℕ) : Prop :=
  ∀ state env before moment after,
    (S.receive .complete state env).trace = before ++ moment :: after →
    moment.signalAt? depth = some .complete →
      (∀ phase ∈ S.phases state, phase = .active) ∧ Flawless before
        ∧ signalsAt depth before = [] ∧ ∀ channel, callsTo channel before = []

/-! ## Failures over an item -/

/-- Whatever an item meets with, nothing but errors comes after a failure over it. -/
def Quells (S : Subscriber ω ν α) : Prop :=
  ∀ item state env, Quelled (S.receive (.next item) state env).trace

/-! ## Requests -/

/-- Requests are made at some depth only. -/
def Pulls (S : Subscriber ω ν α) (depth : ℕ) : Prop :=
  ∀ signal state env, ∀ moment ∈ (S.receive signal state env).trace,
    ∀ channel amount, moment.event = .called channel (.request amount) → moment.layer = depth

lemma Pulls.receiveAll (pulls : S.Pulls depth) (signals : List (Signal α)) (state : S.State)
    (env : ω) : ∀ moment ∈ (S.receiveAll signals state env).trace,
    ∀ channel amount, moment.event = .called channel (.request amount) → moment.layer = depth := by
  refine receiveAll_induction
    (motive := fun _ _ outcome => ∀ moment ∈ outcome.trace, ∀ channel amount,
      moment.event = .called channel (.request amount) → moment.layer = depth)
    ?nil ?stop ?go signals state env
  case nil => exact fun _ _ => List.forall_mem_nil _
  case stop => exact fun signal _ state env _ _ => pulls signal state env
  case go =>
    intro signal _ state env rest _ ih
    exact List.forall_mem_append.mpr ⟨pulls signal state env, ih⟩

end Subscriber

/-! ## The consumer -/

namespace Consumer

lemma event_of_mem_receive {C : Consumer α} {signal : Signal α}
    {state : (C.subscriber : Subscriber ω ν α).State} {env : ω} {moment : Moment ν α}
    (h : moment ∈ (C.subscriber.receive signal state env).trace) :
    moment.layer = 0 ∧ moment.event.hookRun? = none := by
  obtain ⟨held, own⟩ := state
  rw [C.receive_eq] at h
  obtain ⟨event, hevent, rfl⟩ := List.mem_map.mp h
  refine ⟨rfl, ?_⟩
  rcases List.mem_cons.mp hevent with rfl | hevent
  · rfl
  · rcases Reaction.of_mem_events hevent with ⟨channel, call, rfl⟩ | ⟨fatal, rfl⟩ <;> rfl

lemma itemsAt_receive (C : Consumer α) (signal : Signal α)
    (state : (C.subscriber : Subscriber ω ν α).State) (env : ω) :
    itemsAt 0 (C.subscriber.receive signal state env).trace = signal.item?.toList := by
  rw [itemsAt, C.attentive]
  cases h : signal.item? <;> simp [h]

lemma flawless_receive (C : Consumer α) (signal : Signal α)
    (state : (C.subscriber : Subscriber ω ν α).State) (env : ω) :
    Flawless (C.subscriber.receive signal state env).trace := by
  intro moment h run hrun
  exact absurd (hrun.symm.trans (event_of_mem_receive h).2) (Option.some_ne_none run)

lemma thrifty (C : Consumer α) : (C.subscriber : Subscriber ω ν α).Thrifty 0 := by
  intro signal state env
  rw [C.itemsAt_receive]

lemma whole (C : Consumer α) : (C.subscriber : Subscriber ω ν α).Whole 0 :=
  fun signal state env _ _ _ =>
    ⟨C.itemsAt_receive signal state env, C.flawless_receive signal state env⟩

/-- The arrival is the first thing that happens at a consumer. -/
lemma unhindered (C : Consumer α) : (C.subscriber : Subscriber ω ν α).Unhindered 0 := by
  rintro ⟨held, own⟩ env before moment after htrace hmoment
  rw [C.receive_eq, List.map_cons] at htrace
  cases before with
  | nil => exact ⟨List.forall_mem_nil _, List.forall_mem_nil _, rfl, fun _ => rfl⟩
  | cons first before =>
      obtain ⟨_, hrest⟩ := List.cons.inj htrace
      have hmem : moment ∈ before ++ moment :: after :=
        List.mem_append_right before List.mem_cons_self
      rw [← show _ = before ++ moment :: after from hrest] at hmem
      obtain ⟨event, hevent, rfl⟩ := List.mem_map.mp hmem
      rcases Reaction.of_mem_events hevent with ⟨channel, call, rfl⟩ | ⟨fatal, rfl⟩ <;>
        exact absurd hmoment.symm (Option.some_ne_none _)

lemma quells (C : Consumer α) : (C.subscriber : Subscriber ω ν α).Quells := by
  refine fun item state env => List.pairwise_of_forall_mem_list fun moment h later _ withdraws => ?_
  rw [(C.flawless_receive _ state env).withdraws_eq_false h] at withdraws
  exact absurd withdraws Bool.false_ne_true

lemma pulls (C : Consumer α) : (C.subscriber : Subscriber ω ν α).Pulls 0 :=
  fun _ _ _ _ h _ _ _ => (event_of_mem_receive h).1

end Consumer

/-! ## Smooth turns -/

/-- A signal goes through a turn: it was due, it goes on alone, no hook failed, and no call was
made. -/
structure Smooth (session : Session σ) (signal : Signal α) (events : List (Standing × Event ν α))
    (exit : Exit α) : Prop where
  due : ∃ parent, session.Due signal parent
  onward : exit.signals = [signal.relayed]
  flawless : ∀ run ∈ events.filterMap (·.2.hookRun?), run.failure = none
  uncalled : ∀ channel, events.filterMap (·.2.callTo? channel) = []

/-- A turn goes smoothly, or it ends the session if it takes the signal at all, and what goes on is
nothing or what takes the place of the signal. -/
lemma Conduct.smooth_or {hooks : Hooks ω ν α σ} {config : Config} {session session' : Session σ}
    {signal : Signal α} {events : List (Standing × Event ν α)} {exit : Exit α}
    (conduct : Conduct hooks config session signal events session' exit) :
    Smooth session signal events exit
      ∨ (session.accepts signal = true → session'.phase = .terminated)
        ∧ (exit.signals = [] ∨ ∃ error, exit.signals = signal.substitutes error) := by
  cases conduct with
  | refused undue => exact Or.inr ⟨fun due => by simp [due] at undue, Or.inl rfl⟩
  | @passed parent due note there state =>
      refine Or.inl ⟨⟨parent, due⟩, rfl, ?_, fun channel => ?_⟩ <;> cases note <;>
        simp [Signal.run]
  | replaced due note fails route state => exact Or.inr ⟨fun _ => rfl, Or.inr ⟨_, rfl⟩⟩
  | escaped due note fails route state => exact Or.inr ⟨fun _ => rfl, Or.inl rfl⟩

/-- A layer makes no requests itself. -/
lemma Conduct.eq_cancel {hooks : Hooks ω ν α σ} {config : Config} {session session' : Session σ}
    {signal : Signal α} {events : List (Standing × Event ν α)} {exit : Exit α}
    (conduct : Conduct hooks config session signal events session' exit) {channel : ℕ} {call : Call}
    (h : call ∈ events.filterMap (·.2.callTo? channel)) : call = .cancel := by
  cases conduct with
  | refused undue =>
      rw [Session.filterMap_under, filterMap_callTo?_refusal] at h
      obtain ⟨subscription, _, hcall⟩ := List.mem_filterMap.mp h
      simp only [Ground.call?] at hcall
      split at hcall
      · exact (Option.some.inj hcall).symm
      · cases hcall
  | passed due note there state => cases note <;> simp at h
  | replaced due note fails route state =>
      simp only [List.filterMap_append, Session.filterMap_under, List.filterMap_cons,
        List.filterMap_nil, Event.callTo?_hook, Event.callTo?_notice, filterMap_callTo?_withdrawal,
        List.nil_append] at h
      split at h
      · exact List.mem_singleton.mp h
      · exact absurd h List.not_mem_nil
  | escaped due note fails route state => simp [List.filterMap_cons] at h

lemma Signal.item?_relayed (signal : Signal α) : signal.relayed.item? = signal.item? := by
  cases signal <;> rfl

/-- Where a signal is no subscription, an error takes its place. -/
lemma Signal.kind_of_mem_substitutes {signal s : Signal α} {error : StreamError}
    (other : signal.kind ≠ .subscribe) (h : s ∈ signal.substitutes error) : s.kind = .error := by
  cases signal with
  | subscribe _ => exact absurd rfl other
  | _ => exact List.mem_singleton.mp h ▸ rfl

namespace Layer

variable {layer : Layer ω ν α} {actual : Subscriber ω ν α} {depth : ℕ}

/-! ## Layers -/

lemma flawless_ownMoments {signal : Signal α} {session : Session layer.State} {env : ω}
    (flawless : ∀ run ∈ (layer.turn session signal env).events.filterMap (·.2.hookRun?),
      run.failure = none) (below : actual.State) :
    Flawless (layer.ownMoments actual signal session below env) := by
  refine List.forall_mem_map.mpr (List.forall_mem_cons.mpr ⟨nofun, fun shown h run hrun => ?_⟩)
  exact flawless run (List.mem_filterMap.mpr ⟨shown, h, hrun⟩)

/-- Nothing arrives in a turn but what the turn is about. -/
lemma quelled_ownMoments (signal : Signal α) (session : Session layer.State)
    (below : actual.State) (env : ω) :
    Quelled (layer.ownMoments actual signal session below env) := by
  have hown : ∀ shown ∈ (layer.turn session signal env).events, shown.2.received? = none :=
    fun shown h => Event.received?_of_own
      (Session.own_of_mem_turn layer.hooks layer.config session signal env shown h)
  refine List.pairwise_map.mpr (List.pairwise_cons.mpr ⟨fun shown h _ s hs => ?_,
    List.pairwise_of_forall_mem_list fun _ _ shown h _ s hs => ?_⟩)
  · exact absurd (hs.symm.trans (hown shown h)) (Option.some_ne_none s)
  · exact absurd (hs.symm.trans (hown shown h)) (Option.some_ne_none s)

lemma passedOn_of_smooth {signal : Signal α} {session : Session layer.State} {env : ω}
    (smooth : Smooth session signal (layer.turn session signal env).events
      (layer.turn session signal env).exit) (below : actual.State) :
    layer.passedOn actual signal session below env
      = actual.receive signal.relayed below (layer.turn session signal env).env := by
  rw [passedOn, smooth.onward, Subscriber.receiveAll_singleton]

/-- Only errors are heard below where a signal that is no subscription does not go on. -/
lemma confined_passedOn (confines : actual.Confines (· = .error)) {signal : Signal α}
    {session : Session layer.State} {env : ω} (other : signal.kind ≠ .subscribe)
    (replaced : (layer.turn session signal env).exit.signals = []
      ∨ ∃ error, (layer.turn session signal env).exit.signals = signal.substitutes error)
    (below : actual.State) :
    Confined (· = .error) (layer.passedOn actual signal session below env).trace := by
  refine confines.receiveAll (fun s hs => ?_) below _
  rcases replaced with hnil | ⟨error, hsignals⟩
  · rw [hnil] at hs
    exact absurd hs List.not_mem_nil
  · rw [hsignals] at hs
    exact Signal.kind_of_mem_substitutes other hs

lemma thrifty_onto (thrifty : actual.Thrifty depth) : (layer.onto actual).Thrifty (depth + 1) := by
  rintro signal ⟨session, below⟩ env
  rw [itemsAt, signalsAt_succ_receive_onto]
  have passage := layer.passage session signal env
  exact (thrifty.receiveAll _ below _).trans (passage.sublist_items ⟨List.prefix_rfl, id⟩)

lemma whole_onto (whole : actual.Whole depth) : (layer.onto actual).Whole (depth + 1) := by
  rintro signal ⟨session, below⟩ env leads calm active
  obtain ⟨lead, leadsBelow⟩ := List.forall_mem_cons.mp leads
  rw [receive_onto] at active
  obtain ⟨hsession, hbelow⟩ := List.forall_mem_cons.mp active
  rcases (layer.conduct session signal env).smooth_or with smooth | ⟨ended, _⟩
  · have hpassed := passedOn_of_smooth smooth below
    have hcalm := (escaped_receive_onto_eq_none.mp calm).2
    rw [hpassed] at hcalm
    rw [show (layer.passedOn actual signal session below env).state = _ from
      congrArg Outcome.state hpassed] at hbelow
    obtain ⟨hitems, hflawless⟩ := whole signal.relayed below _
      (fun phase h => (leadsBelow phase h).relayed) hcalm hbelow
    refine ⟨?_, ?_⟩
    · rw [itemsAt, signalsAt_succ_receive_onto, hpassed, ← signal.item?_relayed]
      exact hitems
    · rw [receive_onto, hpassed]
      exact (flawless_ownMoments smooth.flawless below).append (hflawless.beneath _)
  · exact absurd (hsession.symm.trans (ended (lead.accepts rfl))) (by decide)

/-- What is heard of a completion below a layer has gone through the turn of the layer. -/
lemma unhindered_onto (confines : actual.Confines (· = .error))
    (unhindered : actual.Unhindered depth) : (layer.onto actual).Unhindered (depth + 1) := by
  rintro ⟨session, below⟩ env before moment after htrace hmoment
  rw [receive_onto] at htrace
  -- What the layer shows itself lies above the depth that is listened at, so the moment is one of
  -- the subscriber below.
  have hunowned : moment ∉ layer.ownMoments actual .complete session below env := by
    intro h
    have hnone := List.filterMap_eq_nil_iff.mp
      (signalsAt_succ_ownMoments depth .complete session below env) moment h
    exact absurd (hmoment.symm.trans hnone) (Option.some_ne_none _)
  obtain ⟨before', rfl, hbelow⟩ := exists_split_of_notMem htrace hunowned
  obtain ⟨first, rest, hpassed, rfl, hrest⟩ := List.map_eq_append_iff.mp hbelow
  obtain ⟨moment', after', rfl, rfl, _⟩ := List.map_eq_cons_iff.mp hrest
  have hmoment' : moment'.signalAt? depth = some .complete := by
    simpa [Moment.signalAt?, Moment.beneath] using hmoment
  rcases (layer.conduct session .complete env).smooth_or with smooth | ⟨_, replaced⟩
  · obtain ⟨parent, due⟩ := smooth.due
    rw [passedOn_of_smooth smooth] at hpassed
    obtain ⟨hactive, hflawless, hunheard, huncalled⟩ :=
      unhindered below _ first moment' after' hpassed hmoment'
    have hsession : session.phase = .active := by
      cases due with
      | ongoing parent state accepted => rfl
    refine ⟨List.forall_mem_cons.mpr ⟨hsession, hactive⟩,
      (flawless_ownMoments smooth.flawless below).append (hflawless.beneath _), ?_,
      fun channel => ?_⟩
    · rw [signalsAt_append, signalsAt_succ_ownMoments, signalsAt_succ_map_beneath, hunheard]
      rfl
    · rw [callsTo_append, callsTo_ownMoments, callsTo_map_beneath, smooth.uncalled, huncalled]
      rfl
  · have confined := confined_passedOn confines (by simp [Signal.kind]) replaced below
    rw [hpassed] at confined
    have hkind := confined.received (List.mem_append_right first List.mem_cons_self)
      (Moment.received?_of_signalAt? hmoment')
    exact absurd hkind (by simp [Signal.kind])

lemma quells_onto (confines : actual.Confines (· = .error)) (quells : actual.Quells) :
    (layer.onto actual).Quells := by
  rintro item ⟨session, below⟩ env
  rw [receive_onto]
  rcases (layer.conduct session (.next item) env).smooth_or with smooth | ⟨_, replaced⟩
  · have hbelow := quells item below (layer.turn session (.next item) env).env
    rw [passedOn_of_smooth smooth]
    refine List.pairwise_append.mpr ⟨quelled_ownMoments _ session below env,
      List.pairwise_map.mpr hbelow, fun moment h _ _ withdraws => ?_⟩
    rw [(flawless_ownMoments smooth.flawless below).withdraws_eq_false h] at withdraws
    exact absurd withdraws Bool.false_ne_true
  · have confined := confined_passedOn confines (by simp [Signal.kind]) replaced below
    have hbelow : Quelled (layer.passedOn actual (.next item) session below env).trace :=
      List.pairwise_of_forall_mem_list fun _ _ _ h _ _ hs => confined.received h hs
    refine List.pairwise_append.mpr ⟨quelled_ownMoments _ session below env,
      List.pairwise_map.mpr hbelow, fun _ _ later h _ _ hs => ?_⟩
    exact (confined.beneath _).received h hs

lemma pulls_onto (pulls : actual.Pulls depth) : (layer.onto actual).Pulls (depth + 1) := by
  rintro signal ⟨session, below⟩ env moment h channel amount hevent
  rw [receive_onto] at h
  rcases List.mem_append.mp h with hown | hpassed
  · obtain ⟨shown, hshown, rfl⟩ := List.mem_map.mp hown
    have hcall : Call.request amount
        ∈ (layer.turn session signal env).events.filterMap (·.2.callTo? channel) := by
      rcases List.mem_cons.mp hshown with rfl | hturn
      · exact nomatch hevent
      · refine List.mem_filterMap.mpr ⟨shown, hturn, ?_⟩
        rw [show shown.2 = _ from hevent]
        exact if_pos rfl
    exact nomatch (layer.conduct session signal env).eq_cancel hcall
  · obtain ⟨moment', h', rfl⟩ := List.mem_map.mp hpassed
    exact congrArg (· + 1) (pulls.receiveAll _ below _ moment' h' channel amount hevent)

/-! ## Stacks -/

theorem thrifty_stack (C : Consumer α) : ∀ layers : List (Layer ω ν α),
    (stack layers C.subscriber).Thrifty layers.length
  | [] => C.thrifty
  | _ :: layers => thrifty_onto (thrifty_stack C layers)

theorem whole_stack (C : Consumer α) : ∀ layers : List (Layer ω ν α),
    (stack layers C.subscriber).Whole layers.length
  | [] => C.whole
  | _ :: layers => whole_onto (whole_stack C layers)

theorem unhindered_stack (C : Consumer α) : ∀ layers : List (Layer ω ν α),
    (stack layers C.subscriber).Unhindered layers.length
  | [] => C.unhindered
  | _ :: layers =>
      unhindered_onto (confines_stack C (· = .error) rfl layers) (unhindered_stack C layers)

theorem quells_stack (C : Consumer α) : ∀ layers : List (Layer ω ν α),
    (stack layers C.subscriber).Quells
  | [] => C.quells
  | _ :: layers => quells_onto (confines_stack C (· = .error) rfl layers) (quells_stack C layers)

theorem pulls_stack (C : Consumer α) : ∀ layers : List (Layer ω ν α),
    (stack layers C.subscriber).Pulls layers.length
  | [] => C.pulls
  | _ :: layers => pulls_onto (pulls_stack C layers)

/-! ## The source is told -/

/-- A failure over an item is a ground for a call. -/
lemma failure_mem_grounds {C : Consumer α} {trace : List (Moment ν α)} {moment : Moment ν α}
    (h : moment ∈ trace) (withdraws : moment.event.withdraws = true) (mind : C.Mind) :
    .failure ∈ C.grounds depth mind trace := by
  obtain ⟨run, hrun, hrun'⟩ := Event.withdraws_iff.mp withdraws
  induction trace generalizing mind with
  | nil => exact absurd h List.not_mem_nil
  | cons first trace ih =>
      rw [Consumer.grounds]
      rcases List.mem_cons.mp h with rfl | hrest
      · -- A hook run is no arrival, so the ground is not what the consumer asks for.
        have hsilent : moment.signalAt? depth = none := by
          cases hevent : moment.event with
          | hook given => simp [Moment.signalAt?, hevent]
          | _ => simp [hevent, Event.hookRun?] at hrun
        rw [hsilent]
        refine List.mem_append_left _ ?_
        simp [Event.ground?, hrun, hrun']
      · cases first.signalAt? depth with
        | some signal => exact List.mem_append_right _ (ih hrest _)
        | none => exact List.mem_append_right _ (ih hrest _)

/-- **A failure over an item cancels** the subscription that all layers are wired to. -/
lemma cancel_of_withdraws {C : Consumer α} {layers : List (Layer ω ν α)} {channel : ℕ} {item : α}
    {state : (stack layers C.subscriber).State} {env : ω}
    (wired : WiredTo C layers (some channel) state) {moment : Moment ν α}
    (h : moment ∈ ((stack layers C.subscriber).receive (.next item) state env).trace)
    (withdraws : moment.event.withdraws = true) :
    .cancel ∈ callsTo channel
      ((stack layers C.subscriber).receive (.next item) state env).trace := by
  have other : (Signal.next item).kind ≠ .subscribe := by simp [Signal.kind]
  rw [(routes_stack C layers env other fun _ => wired).explained channel]
  exact List.mem_filterMap.mpr ⟨.failure, failure_mem_grounds h withdraws _, if_pos rfl⟩

end Layer

end SignalPeek
