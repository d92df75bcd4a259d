import Mathlib.Tactic.Common
import SignalPeek.Proofs.Absorption
import SignalPeek.Proofs.Backpressure

/-!
# What a list of items emits

A consumer that subscribes to a list of items, with nothing in between, gets exactly the items that
it asks for, and the end after all of them.

**Requests** may come at any signal and may be as large as they like, so both counters of the demand
can come to the largest value and stay there.  Then what was sent and what is outstanding no longer
add up to what was requested.  What remains true is said by `Demand.Meets`: the sum is at most what
was requested, and at least that or the largest value.  A list is shorter than that value, so for
each of its items the two bounds decide alike.

**How far the loop goes** is said without the demand.  `Source.stage` sends the first so many items
whether they are asked for or not, and an item is due when the stage before it has been asked for
more (`Source.Due`).  The loop stops at the first stage after which nothing is due, or comes to the
end (`Source.Extent`).
-/

namespace SignalPeek

variable {ω ν α : Type}

/-! ## Requests -/

/-- The exact sum of what these calls request.  A request after a cancellation counts for nothing.
-/
def requestedBy : List Call → ℕ
  | [] => 0
  | .cancel :: _ => 0
  | .request amount :: calls => amount.toNat + requestedBy calls

lemma requestedBy_append {first : List Call} (uncancelled : .cancel ∉ first) (second : List Call) :
    requestedBy (first ++ second) = requestedBy first + requestedBy second := by
  induction first with
  | nil => exact (Nat.zero_add _).symm
  | cons call first ih =>
      obtain ⟨hcall, hfirst⟩ := not_or.mp (mt List.mem_cons.mpr uncancelled)
      cases call with
      | cancel => exact absurd rfl hcall
      | request amount =>
          simp only [List.cons_append, requestedBy, ih hfirst, Nat.add_assoc]

namespace Demand

/-- Calls on a cancelled subscription change nothing. -/
lemma afterAll_of_cancelled {demand : Demand} (h : demand.cancelled = true) (calls : List Call) :
    demand.afterAll calls = demand := by
  induction calls with
  | nil => rfl
  | cons call calls ih =>
      have hafter : demand.after call = demand := by
        cases call with
        | request amount => exact after_request_of_cancelled h amount
        | cancel => rw [after, ← h]
      rw [afterAll, List.foldl_cons, hafter]
      exact ih

/-- **The two counters**, when so much was requested and so many units of it were used up. -/
structure Meets (demand : Demand) (sent requested : ℕ) : Prop where
  total : demand.total.toNat = min requested (2 ^ 64 - 1)
  /-- What was sent and what may be sent was asked for. -/
  covered : sent + demand.outstanding.toNat ≤ requested
  /-- And it is all that was asked for, as far as a counter goes. -/
  ample : min requested (2 ^ 64 - 1) ≤ sent + demand.outstanding.toNat

namespace Meets

variable {demand : Demand} {sent requested : ℕ}

lemma start : Demand.start.Meets 0 0 := ⟨rfl, Nat.le_refl _, Nat.le_refl _⟩

/-- At the ceiling the lower bound holds by itself, and below it the sums are exact. -/
lemma request (meets : demand.Meets sent requested) (uncancelled : demand.cancelled = false)
    (amount : UInt64) : (demand.after (.request amount)).Meets sent (requested + amount.toNat) := by
  have hafter : demand.after (.request amount)
      = { demand with
          total := saturatingAdd demand.total amount
          outstanding := saturatingAdd demand.outstanding amount } := by
    rw [after, uncancelled]
    rfl
  have hsize : UInt64.size = 2 ^ 64 := rfl
  obtain ⟨htotal, hcovered, hample⟩ := meets
  rw [hafter]
  refine ⟨?_, ?_, ?_⟩ <;> simp only [toNat_saturatingAdd, hsize] <;> omega

/-- **Calls keep the counters right**, whenever they come. -/
lemma afterAll (meets : demand.Meets sent requested) (uncancelled : demand.cancelled = false)
    (calls : List Call) : (demand.afterAll calls).Meets sent (requested + requestedBy calls) := by
  induction calls generalizing demand requested with
  | nil => exact meets
  | cons call calls ih =>
      cases call with
      | cancel =>
          have hafter : demand.afterAll (.cancel :: calls) = demand.after .cancel :=
            afterAll_of_cancelled rfl calls
          rw [hafter]
          exact ⟨meets.total, meets.covered, meets.ample⟩
      | request amount =>
          have uncancelled' : (demand.after (.request amount)).cancelled = false := by
            simp [after, uncancelled]
          rw [requestedBy, ← Nat.add_assoc]
          exact ih (meets.request uncancelled amount) uncancelled'

/-- A unit that is used up is sent. -/
lemma take (meets : demand.Meets sent requested) {left : Demand} (took : demand.take? = some left) :
    left.Meets (sent + 1) requested := by
  obtain ⟨-, -, hleft⟩ := of_take? took
  have htotal : left.total = demand.total := by
    rw [take?] at took
    split at took
    · exact absurd took.symm (Option.some_ne_none left)
    · exact (Option.some.inj took) ▸ rfl
  obtain ⟨total, covered, ample⟩ := meets
  exact ⟨htotal ▸ total, by omega, by omega⟩

/-- **A unit can be used up exactly if more was requested than was sent**, as long as less was sent
than a counter can hold. -/
lemma exists_take?_iff (meets : demand.Meets sent requested) (short : sent < 2 ^ 64 - 1) :
    (∃ left, demand.take? = some left) ↔ demand.cancelled = false ∧ sent < requested := by
  constructor
  · rintro ⟨left, took⟩
    obtain ⟨uncancelled, -, hleft⟩ := of_take? took
    have covered := meets.covered
    exact ⟨uncancelled, by omega⟩
  · rintro ⟨uncancelled, hrequested⟩
    have ample := meets.ample
    have hpos : demand.outstanding ≠ 0 := by
      rintro hzero
      rw [hzero, UInt64.toNat_zero] at ample
      omega
    refine ⟨{ demand with outstanding := demand.outstanding - 1 }, ?_⟩
    rw [take?, uncancelled, Bool.false_or, if_neg (by simpa using hpos)]

end Meets

end Demand

/-! ## Sending in a row -/

namespace Outcome

variable {τ : Type}

lemma precededBy_andThen (trace : List (Moment ν α)) (first : Outcome ω ν α τ)
    (rest : τ → ω → Outcome ω ν α τ) :
    (first.precededBy trace).andThen rest = (first.andThen rest).precededBy trace := by
  cases hescaped : first.escaped with
  | some fatal =>
      have hescaped' : (first.precededBy trace).escaped = some fatal := hescaped
      rw [andThen_of_escaped hescaped, andThen_of_escaped hescaped']
  | none =>
      have hescaped' : (first.precededBy trace).escaped = none := hescaped
      rw [andThen_of_not_escaped hescaped, andThen_of_not_escaped hescaped']
      simp only [precededBy, List.append_assoc]

lemma andThen_idle (first : Outcome ω ν α τ) : first.andThen idle = first := by
  cases hescaped : first.escaped with
  | some fatal => exact andThen_of_escaped hescaped idle
  | none =>
      rw [andThen_of_not_escaped hescaped, precededBy, idle, List.append_nil, ← hescaped]

lemma prefix_trace_andThen (first : Outcome ω ν α τ) (rest : τ → ω → Outcome ω ν α τ) :
    first.trace <+: (first.andThen rest).trace := by
  cases hescaped : first.escaped with
  | some fatal => rw [andThen_of_escaped hescaped]
  | none =>
      rw [andThen_of_not_escaped hescaped]
      exact List.prefix_append _ _

end Outcome

lemma Subscriber.receiveAll_concat {S : Subscriber ω ν α} (signals : List (Signal α))
    (last : Signal α) (state : S.State) (env : ω) :
    S.receiveAll (signals ++ [last]) state env
      = (S.receiveAll signals state env).andThen (S.receive last) := by
  induction signals generalizing state env with
  | nil =>
      rw [List.nil_append, receiveAll_singleton]
      rfl
  | cons signal signals ih =>
      rw [List.cons_append, receiveAll, receiveAll]
      cases hescaped : (S.receive signal state env).escaped with
      | some fatal =>
          rw [Outcome.andThen_of_escaped hescaped, Outcome.andThen_of_escaped hescaped,
            Outcome.andThen_of_escaped hescaped]
      | none =>
          rw [Outcome.andThen_of_not_escaped hescaped, Outcome.andThen_of_not_escaped hescaped, ih,
            Outcome.precededBy_andThen]

/-! ## How far the loop goes -/

namespace Source

section Stages

variable (S : Subscriber ω ν α) (items : List α) (env : ω)

/-- What the opening and the first so many items come to, sent whether or not they are asked for. -/
def stage (count : ℕ) : Outcome ω ν α S.State :=
  S.receiveAll (opening :: (items.take count).map .next) S.init env

/-- Nothing escaped from the opening and the first so many items, and nothing was cancelled. -/
structure Open (count : ℕ) : Prop where
  calm : (stage S items env count).escaped = none
  uncancelled : .cancel ∉ callsTo 0 (stage S items env count).trace

/-- After so many items another one is due, or the end if there is none. -/
structure Due (count : ℕ) : Prop extends Open S items env count where
  demanded : count < items.length → count < requestedBy (callsTo 0 (stage S items env count).trace)

/-- **What a source with these items comes to**: the items up to the first that is not due, or all
of them and the end. -/
inductive Extent : Outcome ω ν α S.State → Prop where
  | stopped {count : ℕ} (within : count ≤ items.length) (due : ∀ k < count, Due S items env k)
      (undue : ¬ Due S items env count) : Extent (stage S items env count)
  | completed (due : ∀ k ≤ items.length, Due S items env k) :
      Extent ((stage S items env items.length).andThen (S.receive .complete))

end Stages

variable {S : Subscriber ω ν α} {items : List α} {env : ω} {count : ℕ}

lemma stage_zero (S : Subscriber ω ν α) (items : List α) (env : ω) :
    stage S items env 0 = S.receive opening S.init env :=
  Subscriber.receiveAll_singleton opening S.init env

lemma stage_succ (within : count < items.length) :
    stage S items env (count + 1)
      = (stage S items env count).andThen (S.receive (.next items[count])) := by
  rw [stage, stage, List.take_succ_eq_append_getElem within, List.map_append, List.map_singleton,
    ← List.cons_append, Subscriber.receiveAll_concat]

lemma not_due_of_escaped {fatal : Fatal} (h : (stage S items env count).escaped = some fatal) :
    ¬ Due S items env count :=
  fun due => Option.some_ne_none fatal (h.symm.trans due.calm)

/-- **The loop before an item**: all stages so far were due, and the demand has kept the count. -/
structure Pending (S : Subscriber ω ν α) (items : List α) (env : ω) (count : ℕ) (demand : Demand) :
    Prop where
  due : ∀ k < count, Due S items env k
  calm : (stage S items env count).escaped = none
  meets : demand.Meets count (requestedBy (callsTo 0 (stage S items env count).trace))
  cancelled : demand.cancelled = true ↔ .cancel ∈ callsTo 0 (stage S items env count).trace

namespace Pending

variable {demand left : Demand}

lemma opened_iff (pending : Pending S items env count demand) :
    Open S items env count ↔ demand.cancelled = false := by
  rw [← Bool.not_eq_true, pending.cancelled]
  exact ⟨fun opened => opened.uncancelled, fun uncancelled => ⟨pending.calm, uncancelled⟩⟩

/-- The source sends an item exactly if it is due. -/
lemma due_iff (pending : Pending S items env count demand) (short : items.length < 2 ^ 64)
    (within : count < items.length) :
    Due S items env count ↔ ∃ left, demand.take? = some left := by
  rw [pending.meets.exists_take?_iff (by omega), ← pending.opened_iff]
  exact ⟨fun due => ⟨due.toOpen, due.demanded within⟩, fun h => ⟨h.1, fun _ => h.2⟩⟩

/-- A loop that finds nothing due sends no more. -/
lemma stops (pending : Pending S items env count demand)
    (halts : ∀ state env,
      deliver S (items.drop count) demand state env = (.idle state env : Outcome ω ν α S.State)) :
    (stage S items env count).andThen (deliver S (items.drop count) demand)
      = stage S items env count := by
  rw [Outcome.andThen_of_not_escaped pending.calm, halts,
    ← Outcome.andThen_of_not_escaped pending.calm, Outcome.andThen_idle]

variable (pending : Pending S items env count demand) (took : demand.take? = some left)
  (within : count < items.length)

include pending took within

/-- A loop that sends an item goes on from the next stage. -/
lemma goesOn :
    let stage := stage S items env count
    let delivery := S.receive (.next items[count]) stage.state stage.env
    stage.andThen (deliver S (items.drop count) demand)
      = (Source.stage S items env (count + 1)).andThen
          (deliver S (items.drop (count + 1)) (left.afterAll (callsTo 0 delivery.trace))) := by
  intro stage delivery
  rw [stage_succ within, Outcome.andThen_of_not_escaped pending.calm,
    Outcome.andThen_of_not_escaped pending.calm, Outcome.precededBy_andThen,
    List.drop_eq_getElem_cons within, deliver, took]

/-- **An item keeps the loop going**, unless a fatal error escapes from it. -/
lemma next (due : Due S items env count) (calm : (stage S items env (count + 1)).escaped = none) :
    let stage := stage S items env count
    let delivery := S.receive (.next items[count]) stage.state stage.env
    Pending S items env (count + 1) (left.afterAll (callsTo 0 delivery.trace)) := by
  intro stage delivery
  obtain ⟨uncancelled, uncancelled', -⟩ := Demand.of_take? took
  have hcalls : callsTo 0 (Source.stage S items env (count + 1)).trace
      = callsTo 0 stage.trace ++ callsTo 0 delivery.trace := by
    rw [stage_succ within, Outcome.andThen_of_not_escaped pending.calm]
    exact callsTo_append 0 _ _
  refine
    { due := Nat.forall_lt_succ_right.mpr ⟨pending.due, due⟩
      calm := calm
      meets := ?_
      cancelled := ?_ }
  · rw [hcalls, requestedBy_append due.uncancelled]
    exact (pending.meets.take took).afterAll uncancelled' _
  · rw [hcalls, List.mem_append, Demand.cancelled_afterAll, ← pending.cancelled, uncancelled,
      uncancelled']

end Pending

/-- **The loop**, from any stage on.  By induction on how many items are left to send: nothing is
due here, or one item leads to the next stage. -/
lemma extent_deliver (short : items.length < 2 ^ 64) (left : ℕ) {demand : Demand}
    (hleft : count + left = items.length) (pending : Pending S items env count demand) :
    Extent S items env
      ((stage S items env count).andThen (deliver S (items.drop count) demand)) := by
  induction left generalizing count demand with
  | zero =>
      -- Only the end is left, which needs no demand but is withheld after a cancellation.
      obtain rfl : count = items.length := hleft
      cases hcancelled : demand.cancelled with
      | true =>
          have undue : ¬ Due S items env items.length := fun due => by
            rw [pending.opened_iff.mp due.toOpen] at hcancelled
            exact Bool.false_ne_true hcancelled
          rw [pending.stops fun state env => by rw [List.drop_length, deliver, hcancelled]; rfl]
          exact .stopped (Nat.le_refl _) pending.due undue
      | false =>
          have due : Due S items env items.length :=
            ⟨pending.opened_iff.mpr hcancelled, fun h => absurd h (Nat.lt_irrefl _)⟩
          have hdeliver : deliver S (items.drop items.length) demand = S.receive .complete := by
            funext state env
            rw [List.drop_length, deliver, hcancelled]
            rfl
          rw [hdeliver]
          refine .completed fun k hk => ?_
          exact Nat.forall_lt_succ_right.mpr ⟨pending.due, due⟩ k (Nat.lt_succ_of_le hk)
  | succ left ih =>
      have within : count < items.length := by omega
      cases htake : demand.take? with
      | none =>
          have undue : ¬ Due S items env count := fun due => by
            obtain ⟨left, took⟩ := (pending.due_iff short within).mp due
            exact Option.some_ne_none left (took.symm.trans htake)
          rw [pending.stops fun state env => by
            rw [List.drop_eq_getElem_cons within, deliver, htake]]
          exact .stopped within.le pending.due undue
      | some left =>
          have due := (pending.due_iff short within).mpr ⟨left, htake⟩
          rw [pending.goesOn htake within]
          cases hescaped : (stage S items env (count + 1)).escaped with
          | some fatal =>
              rw [Outcome.andThen_of_escaped hescaped]
              exact .stopped within (Nat.forall_lt_succ_right.mpr ⟨pending.due, due⟩)
                (not_due_of_escaped hescaped)
          | none => exact ih (by omega) (pending.next htake within due hescaped)

/-- **How far a source with a list of items goes**, whoever subscribes to it. -/
theorem extent_drive (S : Subscriber ω ν α) (short : items.length < 2 ^ 64) (env : ω) :
    Extent S items env ((Source.just items).drive S env) := by
  have none_due : ∀ k < 0, Due S items env k := fun k hk => absurd hk (Nat.not_lt_zero k)
  rw [drive, ← stage_zero S items]
  cases hescaped : (stage S items env 0).escaped with
  | some fatal =>
      rw [Outcome.andThen_of_escaped hescaped]
      exact .stopped (Nat.zero_le _) none_due (not_due_of_escaped hescaped)
  | none =>
      refine extent_deliver short items.length (Nat.zero_add _) ?_
      refine { due := none_due, calm := hescaped, meets := ?_, cancelled := ?_ }
      · have meets := Demand.Meets.start.afterAll rfl (callsTo 0 (stage S items env 0).trace)
        rwa [Nat.zero_add] at meets
      · rw [Demand.cancelled_afterAll]
        exact or_iff_right Bool.false_ne_true

/-! ## What a subscriber hears of it -/

lemma prefix_stage {k : ℕ} (h : k ≤ count) (within : count ≤ items.length) :
    (stage S items env k).trace <+: (stage S items env count).trace := by
  induction count, h using Nat.le_induction with
  | base => exact List.prefix_refl _
  | succ count h ih =>
      rw [stage_succ within]
      exact (ih (Nat.le_of_succ_le within)).trans (Outcome.prefix_trace_andThen _ _)

lemma signalsAt_stage (hS : S.Attentive) (within : count ≤ items.length)
    (calm : ∀ k < count, (stage S items env k).escaped = none) :
    signalsAt 0 (stage S items env count).trace = opening :: (items.take count).map .next := by
  cases count with
  | zero =>
      rw [stage_zero, hS]
      rfl
  | succ count =>
      have before : signalsAt 0 (stage S items env count).trace
          = opening :: (items.take count).map .next :=
        Subscriber.signalsAt_receiveAll_of_calm hS (calm count (Nat.lt_succ_self count))
      rw [stage_succ within, Outcome.andThen_of_not_escaped (calm count (Nat.lt_succ_self count)),
        Outcome.precededBy, signalsAt_append, hS, before, List.take_succ_eq_append_getElem within,
        List.map_append, List.map_singleton, List.cons_append]

lemma itemsAt_of_signalsAt {trace : List (Moment ν α)} {given : List α} {rest : List (Signal α)}
    (h : signalsAt 0 trace = opening :: given.map .next ++ rest)
    (other : rest.filterMap Signal.item? = []) : itemsAt 0 trace = given := by
  rw [itemsAt, h, List.filterMap_append, other, List.append_nil]
  have hmap : (given.map Signal.next).filterMap Signal.item? = given := by
    rw [List.filterMap_map]
    exact List.filterMap_some
  exact hmap

/-- Where items were due so far, the stages are what happened so far, and all items were heard. -/
lemma along_stage (hS : S.Attentive) {k : ℕ} (h : k ≤ count) (within : count ≤ items.length)
    (due : ∀ k < count, Due S items env k) :
    (stage S items env k).trace <+: (stage S items env count).trace
      ∧ itemsAt 0 (stage S items env k).trace = items.take k := by
  have signals := signalsAt_stage hS (h.trans within) fun j hj => (due j (hj.trans_le h)).calm
  rw [← List.append_nil (opening :: _)] at signals
  exact ⟨prefix_stage h within, itemsAt_of_signalsAt signals rfl⟩

/-- **What is heard of a list of items**: an item exactly if it is due after those before it, and
the end exactly if it is due after all of them. -/
lemma Extent.heard (hS : S.Attentive) {outcome : Outcome ω ν α S.State}
    (extent : Extent S items env outcome) :
    let arrived := itemsAt 0 outcome.trace
    arrived <+: items
      ∧ (∀ k ≤ arrived.length, (stage S items env k).trace <+: outcome.trace
        ∧ itemsAt 0 (stage S items env k).trace = items.take k)
      ∧ (∀ k < items.length, k < arrived.length ↔ k ≤ arrived.length ∧ Due S items env k)
      ∧ (.complete ∈ signalsAt 0 outcome.trace
        ↔ arrived = items ∧ Due S items env items.length) := by
  cases extent with
  | @stopped count within due undue =>
      have signals := signalsAt_stage hS within fun k hk => (due k hk).calm
      have harrived : itemsAt 0 (stage S items env count).trace = items.take count :=
        (along_stage hS (Nat.le_refl _) within due).2
      have hlength : (items.take count).length = count := List.length_take_of_le within
      simp only [harrived, hlength]
      refine ⟨List.take_prefix count items, fun k hk => along_stage hS hk within due, ?_, ?_⟩
      · intro k _
        refine ⟨fun hk => ⟨hk.le, due k hk⟩, fun ⟨hk, hdue⟩ => hk.lt_of_ne ?_⟩
        rintro rfl
        exact undue hdue
      · refine iff_of_false ?_ ?_
        · rw [signals, List.mem_cons, List.mem_map]
          rintro (h | ⟨item, -, h⟩) <;> exact nomatch h
        · rintro ⟨hall, hdue⟩
          obtain rfl : items.length = count := by rw [← hlength, hall]
          exact undue hdue
  | completed due =>
      have calm := (due items.length (Nat.le_refl _)).calm
      have signals := signalsAt_stage hS (Nat.le_refl _) fun k hk => (due k hk.le).calm
      rw [List.take_length] at signals
      have hsignals : signalsAt 0 ((stage S items env items.length).andThen
          (S.receive .complete)).trace = opening :: items.map .next ++ [.complete] := by
        rw [Outcome.andThen_of_not_escaped calm, Outcome.precededBy, signalsAt_append, signals, hS]
      have harrived := itemsAt_of_signalsAt hsignals rfl
      simp only [harrived]
      refine ⟨List.prefix_refl _, fun k hk => ?_, ?_, ?_⟩
      · obtain ⟨initial, hitems⟩ := along_stage hS hk (Nat.le_refl _) fun k hk => due k hk.le
        exact ⟨initial.trans (Outcome.prefix_trace_andThen _ _), hitems⟩
      · exact fun k hk => iff_of_true hk ⟨hk.le, due k hk.le⟩
      · refine iff_of_true ?_ ⟨trivial, due _ (Nat.le_refl _)⟩
        rw [hsignals]
        exact List.mem_append_right _ (List.mem_singleton_self _)

end Source

lemma Untroubled.event_ne {trace : List (Moment ν α)} (untroubled : Untroubled trace)
    {moment : Moment ν α} (h : moment ∈ trace) (fatal : Fatal) : moment.event ≠ .failed fatal := by
  intro hevent
  have hgrave := untroubled moment h
  rw [hevent] at hgrave
  exact Bool.false_ne_true hgrave.symm

/-- Without layers it is the consumer that a fatal error comes from. -/
lemma Accounted.escaped_eq_some_iff {trace : List (Moment ν α)} {escaped : Option Fatal}
    (account : Accounted [] trace escaped) (fatal : Fatal) :
    escaped = some fatal ↔ ∃ moment ∈ trace, moment.event = .failed fatal := by
  cases account with
  | calm untroubled =>
      refine iff_of_false (Option.some_ne_none fatal).symm ?_
      rintro ⟨moment, hmem, hevent⟩
      exact untroubled.event_ne hmem fatal hevent
  | @parting before last given untroubled parting =>
      cases parting with
      | hook layer named => exact absurd named.symm (Option.some_ne_none _)
      | consumer standings =>
          constructor
          · rintro ⟨⟩
            exact ⟨_, List.mem_append_right _ (List.mem_singleton_self _), rfl⟩
          · rintro ⟨moment, hmem, hevent⟩
            rcases List.mem_append.mp hmem with hbefore | hlast
            · exact absurd hevent (untroubled.event_ne hbefore fatal)
            · rw [List.mem_singleton.mp hlast] at hevent
              exact congrArg some (Event.failed.inj hevent)

namespace Publisher

/-- **A list of items emits exactly what demand allows.**  A consumer that subscribes to it gets its
items in order.  It gets an item exactly if it got all items before it, and until then no fatal
error escaped, nothing was cancelled and more was requested than so many; and it is told of the end
exactly if it got all items and no fatal error escaped and nothing was cancelled.  (For the empty
list only the opening comes before.)  A fatal error escapes exactly if the consumer answered with
it.  And at every moment the total of the demand is the exact sum of what was requested, or the
largest value. -/
theorem emits_on_demand {items : List α} (short : items.length < 2 ^ 64) (C : Consumer α)
    (env : ω) :
    let outcome := (source (.just items) : Publisher ω ν α).subscribe C.subscriber env
    let arrived := itemsAt 0 outcome.trace
    let stage := Source.stage (C.subscriber : Subscriber ω ν α) items env
    let Open := Source.Open (C.subscriber : Subscriber ω ν α) items env
    arrived <+: items
      ∧ (∀ k ≤ arrived.length,
        (stage k).trace <+: outcome.trace ∧ itemsAt 0 (stage k).trace = items.take k)
      ∧ (∀ k < items.length, k < arrived.length ↔
        k ≤ arrived.length ∧ Open k ∧ k < requestedBy (callsTo 0 (stage k).trace))
      ∧ (.complete ∈ signalsAt 0 outcome.trace ↔ arrived = items ∧ Open items.length)
      ∧ (∀ fatal, outcome.escaped = some fatal ↔
        ∃ moment ∈ outcome.trace, moment.event = .failed fatal)
      ∧ ∀ before, before <+: outcome.trace →
        (Demand.start.afterAll (callsTo 0 before)).total.toNat
          = min (requestedBy (callsTo 0 before)) (2 ^ 64 - 1) := by
  intro outcome arrived stage Open
  have extent : Source.Extent C.subscriber items env outcome := Source.extent_drive _ short env
  obtain ⟨ordered, along, delivered, completed⟩ := extent.heard C.attentive
  refine ⟨ordered, along, fun k hk => ?_, ?_, fun fatal => ?_, fun before _ => ?_⟩
  · rw [delivered k hk]
    refine and_congr_right fun _ => ?_
    exact ⟨fun due => ⟨due.toOpen, due.demanded hk⟩, fun h => ⟨h.1, fun _ => h.2⟩⟩
  · rw [completed]
    refine and_congr_right fun _ => ?_
    exact ⟨fun due => due.toOpen, fun opened => ⟨opened, fun h => absurd h (Nat.lt_irrefl _)⟩⟩
  · exact (Source.accounted_drive C.accountable rfl env).escaped_eq_some_iff fatal
  · have meets := Demand.Meets.start.afterAll rfl (callsTo 0 before)
    rw [Nat.zero_add] at meets
    exact meets.total

/-- A consumer asks for the largest amount and for one more, and cancels at the second item. -/
theorem emits_past_the_ceiling :
    let C : Consumer ℕ :=
      { State := Unit
        init := ()
        react := fun signal _ =>
          match signal with
          | .subscribe _ => ⟨(), [.request (.ofNat (2 ^ 64 - 1)), .request 1], none⟩
          | .next 2 => ⟨(), [.cancel, .request 1], none⟩
          | _ => ⟨(), [], none⟩ }
    let outcome := (source (.just [1, 2, 3]) : Publisher Unit Unit ℕ).subscribe C.subscriber ()
    let arrived := itemsAt 0 outcome.trace
    let stage := Source.stage (C.subscriber : Subscriber Unit Unit ℕ) [1, 2, 3] ()
    let Open := Source.Open (C.subscriber : Subscriber Unit Unit ℕ) [1, 2, 3] ()
    [1, 2, 3].length < 2 ^ 64
      ∧ arrived = [1, 2] ∧ requestedBy (callsTo 0 outcome.trace) = 2 ^ 64
      ∧ (∀ k < 3, k < arrived.length ↔
        k ≤ arrived.length ∧ Open k ∧ k < requestedBy (callsTo 0 (stage k).trace))
      ∧ (.complete ∈ signalsAt 0 outcome.trace ↔ arrived = [1, 2, 3] ∧ Open 3)
      ∧ (∀ fatal, outcome.escaped = some fatal ↔
        ∃ moment ∈ outcome.trace, moment.event = .failed fatal)
      ∧ (Demand.start.afterAll (callsTo 0 outcome.trace)).total.toNat = 2 ^ 64 - 1 := by
  intro C outcome arrived stage Open
  have short : [1, 2, 3].length < 2 ^ 64 := by decide
  obtain ⟨_, _, delivered, completed, escaped, total⟩ :=
    emits_on_demand (ν := Unit) short C ()
  have harrived : arrived = [1, 2] := by decide +kernel
  have hrequested : requestedBy (callsTo 0 outcome.trace) = 2 ^ 64 := by decide +kernel
  refine ⟨short, harrived, hrequested, delivered, completed, escaped, ?_⟩
  rw [total _ (List.prefix_refl _), hrequested]
  exact Nat.min_eq_right (Nat.sub_le _ _)

end Publisher

end SignalPeek
