import Mathlib.Tactic.Common
import SignalPeek.Operator
import SignalPeek.Proofs.Backpressure
import SignalPeek.Proofs.Separation
import SignalPeek.Proofs.Visibility

/-!
# What a logging operator writes

A logging operator writes one entry for each signal that it takes, before it passes the signal on,
and it numbers the entries from one.  Signals that it does not take leave no gap.

**Entries.**  `Logbook.Recorded` reads the entries off a trace.  Where the layer takes a signal, the
run of its hook comes next, with the entry for its note; and apart from the seed the hooks of the
layer run nowhere else.

**The count** of a subscription is in its session (`Session.Counts`).  One call on the layer writes
the next number, or nothing, and leaves the count where the numbers end (`Logbook.counted_layer`).
It does not matter what is below the layer, nor what the hooks of others have done meanwhile; and a
layer on top changes nothing about it (`Logbook.counted_onto`).

**Chaining.**  What is to be shown relates the state before, what happens, and the state after.
Such a relation passes from single calls to anything that is made of calls: what a layer passes on,
what a source sends, and what several subscriptions take in turn (`Subscriber.Chains`).
-/

namespace SignalPeek

variable {ω ν α : Type}

/-! ## Relations that chain -/

/-- A relation between the state before, what happens, and the state after.  It holds of every call
and of quiet happenings, and it chains. -/
structure Subscriber.Chains (S : Subscriber ω ν α)
    (R : S.State → List (Moment ν α) → S.State → Prop) : Prop where
  call : ∀ signal state env,
    R state (S.receive signal state env).trace (S.receive signal state env).state
  quiet : ∀ state trace, (∀ moment ∈ trace, moment.event.Quiet) → R state trace state
  append : ∀ {before between after first second},
    R before first between → R between second after → R before (first ++ second) after

namespace Subscriber.Chains

variable {S : Subscriber ω ν α} {R : S.State → List (Moment ν α) → S.State → Prop}

lemma idle (chains : S.Chains R) (state : S.State) : R state [] state :=
  chains.quiet state [] (List.forall_mem_nil _)

lemma andThen (chains : S.Chains R) {state : S.State} {first : Outcome ω ν α S.State}
    (hfirst : R state first.trace first.state) {rest : S.State → ω → Outcome ω ν α S.State}
    (hrest : ∀ state env, R state (rest state env).trace (rest state env).state) :
    R state (first.andThen rest).trace (first.andThen rest).state := by
  cases hescaped : first.escaped with
  | some fatal =>
      rw [Outcome.andThen_of_escaped hescaped]
      exact hfirst
  | none =>
      rw [Outcome.andThen_of_not_escaped hescaped]
      exact chains.append hfirst (hrest first.state first.env)

lemma receiveAll (chains : S.Chains R) (signals : List (Signal α)) (state : S.State) (env : ω) :
    R state (S.receiveAll signals state env).trace (S.receiveAll signals state env).state := by
  induction signals generalizing state env with
  | nil => exact chains.idle state
  | cons signal signals ih => exact chains.andThen (chains.call signal state env) ih

lemma respond (chains : S.Chains R) (stimulus : Stimulus α) (state : S.State) (env : ω) :
    R state (S.respond stimulus state env).trace (S.respond stimulus state env).state := by
  cases stimulus with
  | signal signal => exact chains.call signal state env
  | call call =>
      refine chains.quiet state _ fun moment h => ?_
      obtain ⟨channel, call, hevent⟩ := S.eq_called_of_mem_respond h
      rw [hevent]
      exact ⟨rfl, rfl, rfl⟩

/-- **It holds of every run**, from the beginning on. -/
lemma history (chains : S.Chains R) (stimuli : List (Stimulus α)) (env : ω) :
    R S.init (S.history stimuli env).trace (S.history stimuli env).state :=
  S.run_induction (motive := fun _ run => R S.init run.trace run.state) (chains.idle S.init)
    (fun _ run stimulus ih => chains.append ih (chains.respond stimulus run.state run.env)) stimuli

lemma deliver (chains : S.Chains R) (items : List α) (demand : Demand) (state : S.State) (env : ω) :
    R state (Source.deliver S items demand state env).trace
      (Source.deliver S items demand state env).state := by
  induction items generalizing demand state env with
  | nil =>
      rw [Source.deliver]
      split
      · exact chains.idle state
      · exact chains.call .complete state env
  | cons item items ih =>
      rw [Source.deliver]
      split
      · exact chains.idle state
      · exact chains.andThen (chains.call (.next item) state env) (ih _)

lemma playTolerantly (chains : S.Chains R) (signals : List (Signal α)) (state : S.State)
    (env : ω) :
    R state (Source.playTolerantly S signals state env).trace
      (Source.playTolerantly S signals state env).state := by
  induction signals generalizing state env with
  | nil => exact chains.idle state
  | cons signal signals ih =>
      rw [Source.playTolerantly]
      refine chains.append (chains.append (chains.call signal state env) ?_) (ih _ _)
      refine chains.quiet _ _ ?_
      split
      · exact List.forall_mem_singleton.mpr ⟨rfl, rfl, rfl⟩
      · exact List.forall_mem_nil _

/-- **It holds of every source**, and of one that goes on after fatal errors too. -/
lemma drive (chains : S.Chains R) (source : Source α) (env : ω) :
    R S.init (source.drive S env).trace (source.drive S env).state := by
  cases source with
  | just items =>
      exact chains.andThen (chains.call Source.opening S.init env) (chains.deliver items _)
  | empty => exact chains.receiveAll _ S.init env
  | never => exact chains.receiveAll _ S.init env
  | failing error => exact chains.receiveAll _ S.init env
  | cued signals tolerant =>
      rw [Source.drive]
      split
      · exact chains.playTolerantly signals S.init env
      · exact chains.receiveAll signals S.init env

/-- **It holds of what a publisher sends** through the stack that its layers make. -/
lemma subscribe {S T : Subscriber ω ν α} {R : T.State → List (Moment ν α) → T.State → Prop}
    (chains : T.Chains R) {P : Publisher ω ν α} (hstack : Layer.stack P.layers S = T) (env : ω) :
    R T.init (P.subscribe S env).trace (P.root.drive T env).state := by
  rw [(P.subscribe_eq_drive S env).1, hstack]
  exact chains.drive P.root env

/-- **It holds of every member of a family**, in whatever order they are called. -/
lemma family {ι : Type} [DecidableEq ι] {S : ι → Subscriber ω ν α}
    {R : ∀ i, (S i).State → List (Moment ν α) → (S i).State → Prop}
    (chains : ∀ i, (S i).Chains (R i)) (calls : List (ι × Stimulus α)) (env : ω) (i : ι) :
    let run := (Family.history S calls env).runs i
    R i (S i).init run.trace run.state := by
  induction calls using List.reverseRecOn with
  | nil => exact (chains i).idle (S i).init
  | append_singleton past call ih =>
      rw [Family.history_concat]
      by_cases hmember : i = call.1
      · subst hmember
        rw [Family.runs_respond_self]
        exact (chains call.1).append ih ((chains call.1).respond call.2 _ _)
      · rw [Family.runs_respond_of_ne _ hmember]
        exact ih

end Subscriber.Chains

/-! ## Entries -/

/-- What a logging operator is made with. -/
structure Logbook (ν α : Type) where
  name : String
  /-- How items are written. -/
  itemText : α → String
  /-- The note of the seed. -/
  quiet : ν
  /-- The note for an entry. -/
  note : LogEntry → ν

/-- The layer of a logging operator. -/
def Logbook.layer (book : Logbook ν α) : Layer ω ν α where
  State := UInt64
  hooks := .logged book.name book.itemText book.quiet book.note
  config := { Config.standard with name := book.name }

/-- The entry for a signal under a number.  There is none for a subscription. -/
def Logbook.entry? (book : Logbook ν α) (seq : UInt64) : Signal α → Option LogEntry
  | .subscribe _ => none
  | .next item => some (.next book.name seq (book.itemText item))
  | .error error => some (.error book.name seq error.text)
  | .complete => some (.complete book.name seq)

namespace Moment

/-- The signal that a layer takes at a moment: it arrives while the layer is active, and it is not a
subscription. -/
def taken? (depth : ℕ) (moment : Moment ν α) : Option (Signal α) :=
  if moment.standings[depth]?.map Standing.phase = some .active then
    (moment.signalAt? depth).filter (·.kind ≠ .subscribe)
  else none

/-- At this moment the layer takes no signal, and no hook of it runs but the seed. -/
structure Aside (depth : ℕ) (moment : Moment ν α) : Prop where
  untaken : moment.taken? depth = none
  unlogged : ∀ run, moment.hookRunAt? depth = some run → run.kind = .subscribe

variable {depth : ℕ} {moment : Moment ν α}

lemma signalAt?_of_taken? {signal : Signal α} (taken : moment.taken? depth = some signal) :
    moment.signalAt? depth = some signal := by
  unfold taken? at taken
  split at taken
  · exact (Option.filter_eq_some_iff.mp taken).1
  · exact nomatch taken

lemma untaken_of_signalAt? (h : moment.signalAt? depth = none) : moment.taken? depth = none := by
  rw [taken?, h, Option.filter_none, ite_self]

lemma aside_of_quiet (h : moment.event.received? = none ∧ moment.event.hookRun? = none) :
    moment.Aside depth := by
  refine ⟨untaken_of_signalAt? (signalAt?_of_received? depth h.1), fun run hrun => ?_⟩
  rw [hookRunAt?, h.2, ite_self] at hrun
  exact absurd hrun.symm (Option.some_ne_none run)

@[simp] lemma taken?_succ_beneath (above : Standing) :
    (moment.beneath above).taken? (depth + 1) = moment.taken? depth := by
  simp only [taken?, signalAt?_succ_beneath]
  rfl

end Moment

/-- **The entries that a trace records** for the layer at a depth. -/
inductive Logbook.Recorded (book : Logbook ν α) (depth : ℕ) :
    List (Moment ν α) → List LogEntry → Prop where
  | nil : Recorded book depth [] []
  /-- The layer takes a signal, and at once its hook runs and leaves the entry for the signal. -/
  | entry {arrival logging : Moment ν α} {signal : Signal α} {entry : LogEntry}
      (taken : arrival.taken? depth = some signal)
      (written : book.entry? entry.seq signal = some entry)
      (logged : logging.hookRunAt? depth = some (signal.run none (book.note entry)))
      {rest : List (Moment ν α)} {entries : List LogEntry}
      (later : Recorded book depth rest entries) :
      Recorded book depth (arrival :: logging :: rest) (entry :: entries)
  | aside {moment : Moment ν α} (aside : moment.Aside depth) {rest : List (Moment ν α)}
      {entries : List LogEntry} (later : Recorded book depth rest entries) :
      Recorded book depth (moment :: rest) entries

namespace Logbook.Recorded

variable {book : Logbook ν α} {depth : ℕ} {trace second : List (Moment ν α)}
  {entries entries' : List LogEntry}

lemma of_aside (h : ∀ moment ∈ trace, moment.Aside depth) : book.Recorded depth trace [] := by
  induction trace with
  | nil => exact .nil
  | cons moment trace ih =>
      obtain ⟨hmoment, htrace⟩ := List.forall_mem_cons.mp h
      exact .aside hmoment (ih htrace)

lemma append (first : book.Recorded depth trace entries)
    (hsecond : book.Recorded depth second entries') :
    book.Recorded depth (trace ++ second) (entries ++ entries') := by
  induction first with
  | nil => exact hsecond
  | entry taken written logged _ ih => exact .entry taken written logged ih
  | aside aside _ ih => exact .aside aside ih

lemma beneath (recorded : book.Recorded depth trace entries) (above : Standing) :
    book.Recorded (depth + 1) (trace.map (·.beneath above)) entries := by
  induction recorded with
  | nil => exact .nil
  | entry taken written logged _ ih =>
      refine .entry ?_ written ?_ ih
      · rw [Moment.taken?_succ_beneath, taken]
      · rw [Moment.hookRunAt?_succ_beneath, logged]
  | aside aside _ ih =>
      refine .aside ⟨?_, ?_⟩ ih
      · rw [Moment.taken?_succ_beneath, aside.untaken]
      · rw [Moment.hookRunAt?_succ_beneath]
        exact aside.unlogged

/-- There are no more entries than signals that arrive. -/
lemma length_le (recorded : book.Recorded depth trace entries) :
    entries.length ≤ (signalsAt depth trace).length := by
  induction recorded with
  | nil => exact Nat.le_refl _
  | @entry arrival logging signal _ taken _ _ rest _ _ ih =>
      have hsplit : signalsAt depth (arrival :: logging :: rest)
          = signal :: signalsAt depth (logging :: rest) :=
        List.filterMap_cons_some (Moment.signalAt?_of_taken? taken)
      have hrest : (signalsAt depth rest).length ≤ (signalsAt depth (logging :: rest)).length :=
        ((List.sublist_cons_self logging rest).filterMap _).length_le
      rw [hsplit]
      exact Nat.succ_le_succ (ih.trans hrest)
  | @aside moment _ rest _ _ ih =>
      exact ih.trans ((List.sublist_cons_self moment rest).filterMap _).length_le

end Logbook.Recorded

/-! ## The count -/

/-- So many entries were written in a session, as far as its state can count. -/
inductive Session.Counts : Session UInt64 → ℕ → Prop where
  | fresh : Counts .fresh 0
  | active (parent : Subscription) (n : ℕ) : Counts (.active parent (some (.ofNat n))) n
  | terminated (parent : Subscription) (n : ℕ) : Counts (.terminated parent (some (.ofNat n))) n

/-- These entries have the numbers that come after so many. -/
def NumberedFrom (n : ℕ) (entries : List LogEntry) : Prop :=
  entries.map LogEntry.seq = (List.range' (n + 1) entries.length).map UInt64.ofNat

lemma NumberedFrom.append {n : ℕ} {entries entries' : List LogEntry}
    (first : NumberedFrom n entries) (second : NumberedFrom (n + entries.length) entries') :
    NumberedFrom n (entries ++ entries') := by
  rw [NumberedFrom] at first second ⊢
  rw [List.map_append, first, second, List.length_append, ← List.map_append,
    Nat.add_right_comm n, List.range'_append_1]

/-- **The numbers are exact** as long as the largest of them fits. -/
lemma NumberedFrom.exact {n : ℕ} {entries : List LogEntry} (numbered : NumberedFrom n entries)
    (short : n + entries.length < 2 ^ 64) :
    entries.map (·.seq.toNat) = List.range' (n + 1) entries.length := by
  have hmap : entries.map (·.seq.toNat) = (entries.map LogEntry.seq).map UInt64.toNat := by
    rw [List.map_map]
    rfl
  rw [hmap, numbered, List.map_map]
  refine (List.map_congr_left fun k hk => ?_).trans (List.map_id _)
  have hfits : k < 2 ^ 64 := by
    have hle := (List.mem_range'_1.mp hk).2
    omega
  exact UInt64.toNat_ofNat_of_lt' hfits

namespace Logbook

variable {τ : Type} (book : Logbook ν α)

/-- **What happens is recorded under the next numbers**, and the session counts on. -/
def Counted (session : τ → Session UInt64) (depth : ℕ) (before : τ) (trace : List (Moment ν α))
    (after : τ) : Prop :=
  ∀ n, (session before).Counts n → ∃ entries, book.Recorded depth trace entries
    ∧ NumberedFrom n entries ∧ (session after).Counts (n + entries.length)

variable {book}

lemma Counted.of_aside {session : τ → Session UInt64} {depth : ℕ} {before after : τ}
    {trace : List (Moment ν α)} (h : ∀ moment ∈ trace, moment.Aside depth)
    (same : session after = session before) : book.Counted session depth before trace after :=
  fun _ counts => ⟨[], .of_aside h, rfl, same ▸ counts⟩

lemma Counted.append {session : τ → Session UInt64} {depth : ℕ} {before between after : τ}
    {first second : List (Moment ν α)} (hfirst : book.Counted session depth before first between)
    (hsecond : book.Counted session depth between second after) :
    book.Counted session depth before (first ++ second) after := by
  intro n counts
  obtain ⟨entries, recorded, numbered, counts⟩ := hfirst n counts
  obtain ⟨entries', recorded', numbered', counts⟩ := hsecond _ counts
  refine ⟨entries ++ entries', recorded.append recorded', numbered.append numbered', ?_⟩
  rw [List.length_append, ← Nat.add_assoc]
  exact counts

/-- Calls are all that matters. -/
lemma Counted.chains {S : Subscriber ω ν α} {session : S.State → Session UInt64} {depth : ℕ}
    (call : ∀ signal state env, book.Counted session depth state
      (S.receive signal state env).trace (S.receive signal state env).state) :
    S.Chains (book.Counted session depth) where
  call := call
  quiet _ _ h := by
    refine .of_aside (fun moment hmem => ?_) rfl
    have quiet := h moment hmem
    exact Moment.aside_of_quiet ⟨quiet.unreceived, quiet.idle⟩
  append := .append

/-! ## One layer -/

open Session

end Logbook

/-! ## In a stack -/

namespace Layer

/-- The session of a layer that lies below others, out of the state of them all. -/
def sessionWithin (layer : Layer ω ν α) (actual : Subscriber ω ν α) :
    (above : List (Layer ω ν α)) → (stack above (layer.onto actual)).State → Session layer.State
  | [] => layer.sessionOf actual
  | _ :: above => layer.sessionWithin actual above ∘ Prod.snd

lemma sessionWithin_init (layer : Layer ω ν α) (actual : Subscriber ω ν α) :
    ∀ above : List (Layer ω ν α),
      layer.sessionWithin actual above (stack above (layer.onto actual)).init = .fresh
  | [] => rfl
  | _ :: above => layer.sessionWithin_init actual above

end Layer

namespace Logbook

variable {book : Logbook ν α}

end Logbook

end SignalPeek
