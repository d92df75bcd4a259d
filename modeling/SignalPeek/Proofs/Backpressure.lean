import Mathlib.Algebra.Ring.Nat
import Mathlib.Tactic.Common
import SignalPeek.Proofs.Passing
import SignalPeek.Proofs.Provenance

/-!
# Backpressure

What a consumer gets of a list of items, through any number of layers and whatever the hooks do and
whenever the consumer asks for more: a beginning of the list, never more than it asked for so far,
and the end only after all of it (`Paced`).

**What ties the source to the consumer.**  The source counts what it sends, and the consumer counts
what it hears.  Between two items these two agree as long as all layers are active, and from the
first layer that has ended on nothing is heard any more.  What was sent and what is outstanding
together stay within what was requested, since the source adds up with a ceiling and the sum has
none (`Demand.outstanding_afterAll_le`).  These facts make up an invariant of the loop over the
items (`Emitting`), which one item keeps (`Emitting.next`).

**After a failure over an item** the source sends nothing, since the failure cancels the
subscription that all layers are wired to before the item is dealt with.
-/

namespace SignalPeek

variable {ω ν α : Type}

/-! ## Demand -/

/-- What a call asks for. -/
def Call.amount : Call → ℕ
  | .request amount => amount.toNat
  | .cancel => 0

lemma toNat_saturatingAdd_le (a b : UInt64) : (saturatingAdd a b).toNat ≤ a.toNat + b.toNat := by
  rw [toNat_saturatingAdd]
  exact Nat.min_le_left _ _

namespace Demand

lemma cancelled_afterAll {demand : Demand} {calls : List Call} :
    (demand.afterAll calls).cancelled = true ↔ demand.cancelled = true ∨ .cancel ∈ calls := by
  induction calls generalizing demand with
  | nil => simp [afterAll]
  | cons call calls ih =>
      have hafter : (demand.after call).cancelled = true
          ↔ demand.cancelled = true ∨ call = .cancel := by
        cases call with
        | cancel => simp [after]
        | request amount =>
            simp only [after]
            split <;> simp
      calc ((demand.after call).afterAll calls).cancelled = true
          ↔ (demand.after call).cancelled = true ∨ .cancel ∈ calls := ih
        _ ↔ demand.cancelled = true ∨ .cancel ∈ call :: calls := by
          rw [hafter, List.mem_cons, or_assoc, @eq_comm _ call]

lemma outstanding_after_le (demand : Demand) (call : Call) :
    (demand.after call).outstanding.toNat ≤ demand.outstanding.toNat + call.amount := by
  cases call with
  | cancel => exact Nat.le_refl _
  | request amount =>
      simp only [after, Call.amount]
      split
      · exact Nat.le_add_right _ _
      · exact toNat_saturatingAdd_le _ _

/-- **Outstanding demand is covered by requests**, in spite of the ceiling. -/
lemma outstanding_afterAll_le (demand : Demand) (calls : List Call) :
    (demand.afterAll calls).outstanding.toNat
      ≤ demand.outstanding.toNat + (calls.map Call.amount).sum := by
  induction calls generalizing demand with
  | nil => exact Nat.le_refl _
  | cons call calls ih =>
      have hcall := demand.outstanding_after_le call
      have hcalls := ih (demand.after call)
      rw [List.map_cons, List.sum_cons]
      exact hcalls.trans (by omega)

/-- A unit is used up only where one is outstanding and the subscription is not cancelled. -/
lemma of_take? {demand left : Demand} (h : demand.take? = some left) :
    demand.cancelled = false ∧ left.cancelled = false
      ∧ left.outstanding.toNat + 1 = demand.outstanding.toNat := by
  unfold take? at h
  split at h
  · exact nomatch h
  · rename_i hopen
    obtain rfl := Option.some.inj h
    simp only [Bool.or_eq_true, beq_iff_eq, not_or, Bool.not_eq_true] at hopen
    have hpos : 1 ≤ demand.outstanding.toNat := by
      refine Nat.one_le_iff_ne_zero.mpr fun hzero => hopen.2 ?_
      exact UInt64.toNat_inj.mp hzero
    have hle : (1 : UInt64) ≤ demand.outstanding := UInt64.le_iff_toNat_le.mpr hpos
    refine ⟨hopen.1, hopen.1, ?_⟩
    rw [UInt64.toNat_sub_of_le _ _ hle]
    exact Nat.sub_add_cancel hpos

end Demand

/-! ## Requests -/

def Moment.requestedAt (layer : ℕ) (moment : Moment ν α) : ℕ :=
  match moment.event with
  | .called _ (.request amount) => if moment.layer = layer then amount.toNat else 0
  | _ => 0

/-- The sum of all that is requested at a layer in the course of a trace. -/
def requestedAt (layer : ℕ) (trace : List (Moment ν α)) : ℕ :=
  (trace.map (·.requestedAt layer)).sum

@[simp] lemma requestedAt_append (layer : ℕ) (first second : List (Moment ν α)) :
    requestedAt layer (first ++ second) = requestedAt layer first + requestedAt layer second := by
  simp [requestedAt]

/-- Where only one layer makes requests, what is asked for on a channel is asked for there. -/
lemma sum_callsTo_le {depth : ℕ} {trace : List (Moment ν α)}
    (pulls : ∀ moment ∈ trace, ∀ channel amount,
      moment.event = .called channel (.request amount) → moment.layer = depth) (channel : ℕ) :
    ((callsTo channel trace).map Call.amount).sum ≤ requestedAt depth trace := by
  induction trace with
  | nil => exact Nat.le_refl _
  | cons moment trace ih =>
      obtain ⟨hmoment, htrace⟩ := List.forall_mem_cons.mp pulls
      have hfirst : ((callsTo channel [moment]).map Call.amount).sum
          ≤ moment.requestedAt depth := by
        cases hevent : moment.event with
        | called given call =>
            cases call with
            | cancel =>
                by_cases h : given = channel <;>
                  simp [callsTo, Moment.callTo?, hevent, h, Call.amount]
            | request amount =>
                have hlayer := hmoment given amount hevent
                by_cases h : given = channel <;>
                  simp [callsTo, Moment.callTo?, Moment.requestedAt, hevent, hlayer, h, Call.amount]
        | _ => simp [callsTo, Moment.callTo?, hevent]
      have hrest := ih htrace
      have hcons : callsTo channel (moment :: trace)
          = callsTo channel [moment] ++ callsTo channel trace :=
        callsTo_append channel [moment] trace
      rw [hcons, List.map_append, List.sum_append, requestedAt, List.map_cons, List.sum_cons]
      exact Nat.add_le_add hfirst hrest

/-- At every moment what was delivered is covered by what was requested. -/
def Covered (depth : ℕ) (trace : List (Moment ν α)) : Prop :=
  ∀ before after, trace = before ++ after →
    (itemsAt depth before).length ≤ requestedAt depth before

/-- A trace goes on being covered by what was requested before it went on. -/
lemma Covered.append {depth : ℕ} {past : List (Moment ν α)} (covered : Covered depth past)
    {later : List (Moment ν α)}
    (h : (itemsAt depth (past ++ later)).length ≤ requestedAt depth past) :
    Covered depth (past ++ later) := by
  intro before after htrace
  rcases List.append_eq_append_iff.mp htrace with ⟨between, rfl, rfl⟩ | ⟨between, rfl, _⟩
  · simp only [itemsAt_append, List.length_append, requestedAt_append] at h ⊢
    omega
  · exact covered before between rfl

/-! ## Pace -/

/-- **Items are delivered at the pace of demand.** -/
structure Paced (depth : ℕ) (items : List α) (trace : List (Moment ν α)) : Prop where
  /-- What is delivered is a beginning of the items. -/
  delivered : itemsAt depth trace <+: items
  /-- At every moment no more was delivered than was requested so far. -/
  covered : Covered depth trace
  /-- The end is told when all was delivered, no hook has failed and nothing was cancelled. -/
  completed : ∀ before moment after, trace = before ++ moment :: after →
    moment.signalAt? depth = some .complete →
      itemsAt depth before = items ∧ Flawless before
        ∧ (Demand.start.afterAll (callsTo 0 before)).cancelled = false
  /-- After a hook has failed over an item nothing but errors arrives anywhere. -/
  quelled : Quelled trace

/-- These items were sent so far, and the end was not. -/
structure Ongoing (depth : ℕ) (sent : List α) (trace : List (Moment ν α)) : Prop where
  delivered : itemsAt depth trace <+: sent
  covered : Covered depth trace
  unended : Confined (· ≠ .complete) trace
  quelled : Quelled trace

lemma Ongoing.paced {depth : ℕ} {sent items : List α} {trace : List (Moment ν α)}
    (ongoing : Ongoing depth sent trace) (h : sent <+: items) : Paced depth items trace := by
  refine ⟨ongoing.delivered.trans h, ongoing.covered, ?_, ongoing.quelled⟩
  rintro before moment after rfl hmoment
  exact absurd rfl (ongoing.unended.received (List.mem_append_right before List.mem_cons_self)
    (Moment.received?_of_signalAt? hmoment))

namespace Layer

/-- **The loop over the items** between two of them: what was sent and what came of it, the demand
that is left, and the state of the stack. -/
structure Emitting (C : Consumer α) (layers : List (Layer ω ν α)) (sent : List α)
    (past : List (Moment ν α)) (demand : Demand) (state : (stack layers C.subscriber).State) : Prop
    where
  ongoing : Ongoing layers.length sent past
  follows : Follows C layers .active state (signalsAt layers.length past)
  wired : WiredTo C layers (some 0) state
  /-- While all layers are active, nothing was lost. -/
  whole : (∀ phase ∈ (stack layers C.subscriber).phases state, phase = .active) →
    itemsAt layers.length past = sent ∧ Flawless past
  /-- What was sent and what may be sent was asked for. -/
  funded : sent.length + demand.outstanding.toNat ≤ requestedAt layers.length past
  cancelled : demand.cancelled = true ↔ .cancel ∈ callsTo 0 past
  withdrawn : ∀ moment ∈ past, moment.event.withdraws = true → .cancel ∈ callsTo 0 past

variable {C : Consumer α} {layers : List (Layer ω ν α)}

/-- A stack that follows an active phase has an ended layer in it, or all of its layers are active.
-/
lemma Follows.active {state : (stack layers C.subscriber).State} {heard : List (Signal α)}
    (follows : Follows C layers .active state heard) :
    .terminated ∈ (stack layers C.subscriber).phases state
      ∨ ∀ phase ∈ (stack layers C.subscriber).phases state, phase = .active := by
  by_cases h : Phase.terminated ∈ (stack layers C.subscriber).phases state
  · exact Or.inl h
  · refine Or.inr fun phase hmem => ?_
    cases phase with
    | init => exact ((follows.begun .init hmem).mpr rfl).symm
    | active => rfl
    | terminated => exact absurd hmem h

/-- What one signal adds to the demand is what the consumer requests in the course of it. -/
lemma outstanding_receive_le (C : Consumer α) (layers : List (Layer ω ν α)) (signal : Signal α)
    (state : (stack layers C.subscriber).State) (env : ω) (demand : Demand) :
    let trace := ((stack layers C.subscriber).receive signal state env).trace
    (demand.afterAll (callsTo 0 trace)).outstanding.toNat
      ≤ demand.outstanding.toNat + requestedAt layers.length trace := by
  intro trace
  have hcalls : ((callsTo 0 trace).map Call.amount).sum ≤ requestedAt layers.length trace :=
    sum_callsTo_le (pulls_stack C layers signal state env) 0
  exact (demand.outstanding_afterAll_le _).trans (Nat.add_le_add_left hcalls _)

/-! ## The opening -/

lemma confined_opening (C : Consumer α) (layers : List (Layer ω ν α)) (env : ω) {kind : SignalKind}
    (h : kind = .next ∨ kind = .complete) :
    Confined (· ≠ kind) ((stack layers C.subscriber).receive Source.opening
      (stack layers C.subscriber).init env).trace := by
  refine confines_stack C (· ≠ kind) ?_ layers _ _ env ?_ <;> rcases h with rfl | rfl <;>
    simp [Source.opening, Signal.kind]

lemma itemsAt_opening (C : Consumer α) (layers : List (Layer ω ν α)) (env : ω) :
    itemsAt layers.length ((stack layers C.subscriber).receive Source.opening
      (stack layers C.subscriber).init env).trace = [] :=
  List.sublist_nil.mp (thrifty_stack C layers Source.opening _ env)

lemma ongoing_opening (C : Consumer α) (layers : List (Layer ω ν α)) (env : ω) :
    Ongoing layers.length [] ((stack layers C.subscriber).receive Source.opening
      (stack layers C.subscriber).init env).trace := by
  have hitems := itemsAt_opening C layers env
  refine ⟨hitems ▸ List.nil_prefix, ?_, confined_opening C layers env (Or.inr rfl),
    (confined_opening C layers env (Or.inl rfl)).quelled⟩
  intro before after htrace
  rw [htrace, itemsAt_append] at hitems
  rw [(List.append_eq_nil_iff.mp hitems).1]
  exact Nat.zero_le _

lemma emitting_opening {env : ω} :
    let opened := (stack layers C.subscriber).receive Source.opening
      (stack layers C.subscriber).init env
    opened.escaped = none → Emitting C layers [] opened.trace
      (Demand.start.afterAll (callsTo 0 opened.trace)) opened.state := by
  intro opened calm
  have noitems : Confined (· ≠ .next) opened.trace := confined_opening C layers env (Or.inl rfl)
  have begins : Lead .init (Source.opening : Signal α) .active := .begins (.direct 0)
  have begun := (follows_init C layers).begun
  refine
    { ongoing := ongoing_opening C layers env
      follows := by simpa using obedient_stack C layers begins (follows_init C layers) calm
      wired := ((opens_stack C layers).opened (.direct 0) env).wired
      whole := fun active => ?_
      funded := ?_
      cancelled := ?_
      withdrawn := fun moment h withdraws => ?_ }
  · refine whole_stack C layers Source.opening _ env (fun phase h => ?_) calm active
    rw [(begun phase h).mp rfl]
    exact begins
  · have houtstanding := outstanding_receive_le C layers Source.opening
      (stack layers C.subscriber).init env .start
    have hstart : Demand.start.outstanding.toNat = 0 := rfl
    rw [hstart] at houtstanding
    exact (Nat.zero_add _).trans_le (houtstanding.trans (Nat.zero_add _).le)
  · simp [Demand.cancelled_afterAll, Demand.start]
  · rw [noitems.withdraws_eq_false (fun h => h rfl) h] at withdraws
    exact absurd withdraws Bool.false_ne_true

/-! ## One item -/

namespace Emitting

variable {sent : List α} {past : List (Moment ν α)} {demand left : Demand}
  {state : (stack layers C.subscriber).State}

lemma delivered_next (emitting : Emitting C layers sent past demand state) (item : α) (env : ω) :
    itemsAt layers.length
        (past ++ ((stack layers C.subscriber).receive (.next item) state env).trace)
      <+: sent ++ [item] := by
  rw [itemsAt_append]
  -- An ended layer keeps the item from the consumer.  Without one nothing was lost so far, so the
  -- item comes in its place.
  rcases emitting.follows.active with ended | active
  · have hquiet := (sealed_stack C layers (.next item) env ended).1
    rw [itemsAt, itemsAt, hquiet, List.filterMap_nil, List.append_nil]
    exact emitting.ongoing.delivered.trans (List.prefix_append sent [item])
  · rw [(emitting.whole active).1]
    have thrifty := thrifty_stack C layers (.next item) state env
    rcases List.sublist_singleton.mp thrifty with hnil | hitem
    · rw [hnil, List.append_nil]
      exact List.prefix_append sent [item]
    · rw [hitem]

/-- Where the source sends, no hook has failed over an item so far. -/
lemma unwithdrawn (emitting : Emitting C layers sent past demand state)
    (uncancelled : demand.cancelled = false) {moment : Moment ν α} (h : moment ∈ past) :
    moment.event.withdraws = false := by
  refine Bool.eq_false_iff.mpr fun withdraws => ?_
  have hcancel := emitting.cancelled.mpr (emitting.withdrawn moment h withdraws)
  rw [uncancelled] at hcancel
  exact absurd hcancel Bool.false_ne_true

/-- A trace in which no hook failed over an item may go on with any quelled one. -/
lemma quelled_append (emitting : Emitting C layers sent past demand state)
    (uncancelled : demand.cancelled = false) {later : List (Moment ν α)} (h : Quelled later) :
    Quelled (past ++ later) := by
  refine List.pairwise_append.mpr ⟨emitting.ongoing.quelled, h, fun moment hmem _ _ withdraws => ?_⟩
  rw [emitting.unwithdrawn uncancelled hmem] at withdraws
  exact absurd withdraws Bool.false_ne_true

/-- Even if a fatal error escapes from an item, the pace was kept. -/
lemma ongoing_next (emitting : Emitting C layers sent past demand state)
    (took : demand.take? = some left) (item : α) (env : ω) :
    Ongoing layers.length (sent ++ [item])
      (past ++ ((stack layers C.subscriber).receive (.next item) state env).trace) := by
  obtain ⟨uncancelled, _, hleft⟩ := Demand.of_take? took
  have hfunded := emitting.funded
  have hdelivered := emitting.delivered_next item env
  have hlength := hdelivered.length_le
  rw [List.length_append, List.length_singleton] at hlength
  refine ⟨hdelivered, emitting.ongoing.covered.append (by omega),
    emitting.ongoing.unended.append ?_,
    emitting.quelled_append uncancelled (quells_stack C layers item state env)⟩
  exact confines_stack C (· ≠ .complete) (by simp) layers _ state env (by simp [Signal.kind])

/-- Layers that are active after an item were active before it, and nothing was lost of it. -/
lemma whole_next (emitting : Emitting C layers sent past demand state) (item : α) (env : ω) :
    let delivery := (stack layers C.subscriber).receive (.next item) state env
    delivery.escaped = none →
      (∀ phase ∈ (stack layers C.subscriber).phases delivery.state, phase = .active) →
        itemsAt layers.length (past ++ delivery.trace) = sent ++ [item]
          ∧ Flawless (past ++ delivery.trace) := by
  intro delivery calm active'
  rcases emitting.follows.active with ended | active
  · exact nomatch active' _ (sealed_stack C layers (.next item) env ended).2
  · obtain ⟨hsent, hflawless⟩ := emitting.whole active
    obtain ⟨hitem, hflawless'⟩ := whole_stack C layers (.next item) state env
      (fun phase h => active phase h ▸ .goesOn item) calm active'
    refine ⟨?_, hflawless.append hflawless'⟩
    rw [itemsAt_append, hsent, hitem]
    rfl

/-- **One item keeps the loop going**, unless a fatal error escapes from it. -/
lemma next (emitting : Emitting C layers sent past demand state) (took : demand.take? = some left)
    (item : α) (env : ω) :
    let delivery := (stack layers C.subscriber).receive (.next item) state env
    delivery.escaped = none →
      Emitting C layers (sent ++ [item]) (past ++ delivery.trace)
        (left.afterAll (callsTo 0 delivery.trace)) delivery.state := by
  intro delivery calm
  obtain ⟨uncancelled, uncancelled', hleft⟩ := Demand.of_take? took
  have other : (Signal.next item).kind ≠ .subscribe := by simp [Signal.kind]
  refine
    { ongoing := emitting.ongoing_next took item env
      follows := ?_
      wired := (routes_stack C layers env other fun _ => emitting.wired).wired _ emitting.wired
      whole := emitting.whole_next item env calm
      funded := ?_
      cancelled := ?_
      withdrawn := ?_ }
  · rw [signalsAt_append]
    exact obedient_stack C layers (.goesOn item) emitting.follows calm
  · have hfunded := emitting.funded
    have houtstanding : (left.afterAll (callsTo 0 delivery.trace)).outstanding.toNat
        ≤ left.outstanding.toNat + requestedAt layers.length delivery.trace :=
      outstanding_receive_le C layers (.next item) state env left
    rw [List.length_append, List.length_singleton, requestedAt_append]
    omega
  · rw [Demand.cancelled_afterAll, callsTo_append, List.mem_append, ← emitting.cancelled,
      uncancelled, uncancelled']
  · rw [callsTo_append]
    refine List.forall_mem_append.mpr ⟨fun moment h withdraws => ?_, fun moment h withdraws => ?_⟩
    · exact List.mem_append_left _ (emitting.withdrawn moment h withdraws)
    · exact List.mem_append_right _ (cancel_of_withdraws emitting.wired h withdraws)

/-! ## The end -/

/-- The consumer is told of the end only where all layers are active, and then nothing was lost. -/
lemma complete (emitting : Emitting C layers sent past demand state)
    (uncancelled : demand.cancelled = false) (env : ω) :
    Paced layers.length sent
      (past ++ ((stack layers C.subscriber).receive .complete state env).trace) := by
  have hnone : itemsAt layers.length ((stack layers C.subscriber).receive .complete state env).trace
      = [] := List.sublist_nil.mp (thrifty_stack C layers .complete state env)
  have noitems : Confined (· ≠ .next)
      ((stack layers C.subscriber).receive .complete state env).trace :=
    confines_stack C (· ≠ .next) (by simp) layers _ state env (by simp [Signal.kind])
  refine ⟨?_, emitting.ongoing.covered.append ?_, fun before moment after htrace hmoment => ?_,
    emitting.quelled_append uncancelled noitems.quelled⟩
  · rw [itemsAt_append, hnone, List.append_nil]
    exact emitting.ongoing.delivered
  · rw [itemsAt_append, hnone, List.append_nil]
    exact emitting.ongoing.delivered.length_le.trans
      ((Nat.le_add_right _ _).trans emitting.funded)
  · -- The consumer cannot have been told before the end was sent.
    have hlate : moment ∉ past := fun h =>
      emitting.ongoing.unended.received h (Moment.received?_of_signalAt? hmoment) rfl
    obtain ⟨before', rfl, hafter⟩ := exists_split_of_notMem htrace hlate
    obtain ⟨active, hflawless', hunheard, huncalled⟩ :=
      unhindered_stack C layers state env before' moment after hafter hmoment
    obtain ⟨hsent, hflawless⟩ := emitting.whole active
    refine ⟨?_, hflawless.append hflawless', ?_⟩
    · rw [itemsAt_append, hsent, itemsAt, hunheard]
      exact List.append_nil sent
    · refine Bool.eq_false_iff.mpr fun hcancelled => ?_
      rw [Demand.cancelled_afterAll, callsTo_append, huncalled, List.append_nil,
        ← emitting.cancelled, uncancelled] at hcancelled
      simp [Demand.start] at hcancelled

end Emitting

/-! ## The whole list -/

/-- **The loop keeps the pace** from wherever it stands. -/
lemma paced_deliver (items : List α) {sent : List α} {past : List (Moment ν α)} {demand : Demand}
    {state : (stack layers C.subscriber).State} (env : ω)
    (emitting : Emitting C layers sent past demand state) :
    Paced layers.length (sent ++ items)
      (past ++ (Source.deliver (stack layers C.subscriber) items demand state env).trace) := by
  -- By induction on what is left to send: the loop stops here, or one item keeps the invariant.
  induction items generalizing sent past demand state env with
  | nil =>
      rw [Source.deliver, List.append_nil]
      split
      · rw [Outcome.idle, List.append_nil]
        exact emitting.ongoing.paced List.prefix_rfl
      · rename_i uncancelled
        exact emitting.complete (Bool.eq_false_iff.mpr uncancelled) env
  | cons item items ih =>
      rw [Source.deliver]
      split
      · rw [Outcome.idle, List.append_nil]
        exact emitting.ongoing.paced (List.prefix_append _ _)
      · rename_i left took
        dsimp only
        rw [List.append_cons]
        cases hescaped : ((stack layers C.subscriber).receive (.next item) state env).escaped with
        | some fatal =>
            rw [Outcome.andThen_of_escaped hescaped]
            exact (emitting.ongoing_next took item env).paced (List.prefix_append _ _)
        | none =>
            rw [Outcome.andThen_of_not_escaped hescaped, Outcome.precededBy, ← List.append_assoc]
            exact ih _ (emitting.next took item env hescaped)

lemma paced_drive (C : Consumer α) (layers : List (Layer ω ν α)) (items : List α) (env : ω) :
    Paced layers.length items
      ((Source.just items).drive (stack layers C.subscriber) env).trace := by
  rw [Source.drive]
  cases hescaped : ((stack layers C.subscriber).receive Source.opening
      (stack layers C.subscriber).init env).escaped with
  | some fatal =>
      rw [Outcome.andThen_of_escaped hescaped]
      exact (ongoing_opening C layers env).paced List.nil_prefix
  | none =>
      rw [Outcome.andThen_of_not_escaped hescaped, Outcome.precededBy]
      exact paced_deliver items _ (emitting_opening hescaped)

end Layer

namespace Publisher

/-- Subscribing to operators on a source is driving the stack of their layers. -/
lemma subscribe_eq_drive (P : Publisher ω ν α) (S : Subscriber ω ν α) (env : ω) :
    (P.subscribe S env).trace = (P.root.drive (Layer.stack P.layers S) env).trace
      ∧ (P.subscribe S env).escaped = (P.root.drive (Layer.stack P.layers S) env).escaped := by
  induction P generalizing S with
  | source source => exact ⟨rfl, rfl⟩
  | peek base layer ih =>
      obtain ⟨htrace, hescaped⟩ := ih (layer.onto S)
      have hstack : Layer.stack (Publisher.peek base layer).layers S
          = Layer.stack base.layers (layer.onto S) := by
        simp [Layer.stack, layers]
      rw [hstack]
      exact ⟨htrace, hescaped⟩

end Publisher

/-- A failure over an item is no part of how a trace ends when a fatal error escapes. -/
lemma Parting.withdraws_eq_false {names : List String} {fatal : Fatal} {last : List (Moment ν α)}
    (parting : Parting names fatal last) {moment : Moment ν α} (h : moment ∈ last) :
    moment.event.withdraws = false := by
  cases parting with
  | hook layer named running ended occasion holds note tells warns =>
      rcases List.mem_pair.mp h with rfl | rfl
      · simp [Event.withdraws, Event.hookRun?, HookRun.withdraws, holds.severity]
      · rfl
  | consumer standings =>
      rw [List.mem_singleton.mp h]
      rfl

/-- A fatal error that escapes although a hook has failed over an item came up after that. -/
lemma Accounted.parting_after {names : List String} {trace before after : List (Moment ν α)}
    {moment : Moment ν α} {fatal : Fatal} (account : Accounted names trace (some fatal))
    (htrace : trace = before ++ moment :: after) (withdraws : moment.event.withdraws = true) :
    ∃ between last, after = between ++ last ∧ Parting names fatal last := by
  cases account with
  | @parting calm last _ untroubled parting =>
      have hmild : moment ∉ last := fun h => by
        simp [parting.withdraws_eq_false h] at withdraws
      rcases List.append_eq_append_iff.mp htrace with ⟨later, _, rfl⟩ | ⟨later, rfl, hafter⟩
      · exact absurd (List.mem_append_right later List.mem_cons_self) hmild
      · cases later with
        | nil =>
            have hmem : moment ∈ [] ++ last := hafter ▸ List.mem_cons_self
            exact absurd hmem hmild
        | cons first later =>
            obtain ⟨_, rfl⟩ := List.cons.inj hafter
            exact ⟨later, last, rfl, parting⟩

namespace Publisher

/-- **Backpressure and completeness.**  What a consumer gets of a list of items, through any
operators, is a beginning of it, and at every moment no more than was requested so far.  It is told
of the end only after all items, when no hook has failed and the subscription is not cancelled.
After a hook has failed recoverably over an item, nothing but errors arrives at any layer, and
nothing escapes from subscribing but a fatal error that came up in the course of these. -/
theorem paced_just (P : Publisher ω ν α) {items : List α} (just : P.root = .just items)
    (C : Consumer α) (env : ω) :
    let outcome := P.subscribe C.subscriber env
    Paced P.layers.length items outcome.trace
      ∧ ∀ before moment after, outcome.trace = before ++ moment :: after →
          moment.event.withdraws = true → ∀ fatal, outcome.escaped = some fatal →
            ∃ between last, after = between ++ last ∧ Parting P.names fatal last := by
  intro outcome
  have strict : P.root.isTolerant = false := by rw [just]; rfl
  have account : Accounted P.names outcome.trace outcome.escaped := by
    simpa using accounted_subscribe strict C.accountable env
  refine ⟨?_, fun before moment after htrace withdraws fatal hescaped => ?_⟩
  · rw [show outcome.trace = _ from (P.subscribe_eq_drive C.subscriber env).1, just]
    exact Layer.paced_drive C P.layers items env
  · rw [hescaped] at account
    exact account.parting_after htrace withdraws

/-- The consumer asks for five, and the second layer fails over the first of two items, so nothing
is delivered. -/
theorem paced_past_balking :
    let P : Publisher Unit Unit ℕ :=
      .peek (.peek (.source (.just [1, 2])) .plain) (.balking () (.mk 0 (.message "stop")))
    let outcome := P.subscribe (Consumer.asking 5).subscriber ()
    P.root = .just [1, 2]
      ∧ requestedAt 2 outcome.trace = 5
      ∧ (∃ moment ∈ outcome.trace, moment.event.withdraws = true)
      ∧ Paced 2 [1, 2] outcome.trace
      ∧ ∀ before moment after, outcome.trace = before ++ moment :: after →
          moment.event.withdraws = true → ∀ fatal, outcome.escaped = some fatal →
            ∃ between last, after = between ++ last ∧ Parting P.names fatal last := by
  intro P outcome
  have hfailed : outcome.trace.any (·.event.withdraws) = true := rfl
  exact ⟨rfl, rfl, List.any_eq_true.mp hfailed, paced_just P rfl (Consumer.asking 5) ()⟩

/-- Where nothing fails and enough is asked for, all is delivered and the end is told. -/
example :
    let P : Publisher Unit Unit ℕ := .peek (.peek (.source (.just [1, 2])) .plain) .plain
    let outcome := P.subscribe (Consumer.asking 2).subscriber ()
    itemsAt 2 outcome.trace = [1, 2] ∧ .complete ∈ (signalsAt 2 outcome.trace).map Signal.kind :=
  by decide

end Publisher

end SignalPeek
