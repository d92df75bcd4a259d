import Mathlib.Tactic.Common
import SignalPeek.Proofs.Logging

/-!
# What a layer says of itself

A layer gives notice of each mishap that it meets with, at once, and of nothing else.

**Mishaps** are read off a trace without a look at the notices in it (`Moment.mishap?`).  There are
two kinds.  A signal arrives while the layer is not in the phase for it, or a hook of the layer
fails.  What is to be written of each is a table (`Mishap.record`): only an error that is thrown
away and a failure for good are warnings.

**Notices.**  `Noticed` goes through a trace and wants the record of a mishap right behind it, and
no record anywhere else.  Behind the record comes what it announces: the calls that the layer makes
itself, the error for its sink, and the arrival of a signal below (`Mishap.LeadsTo`).  Which
subscription a layer cancels over an item is read off the trace as well, since its parent is the
first subscription that arrived.  What logging hooks write stands in the notes of their runs and is
no notice.

**From a turn to a stack.**  A turn is noticed whatever comes of it below (`Conduct.noticed`), so a
fatal error that only passes by leaves no record.  Layers on top change nothing about that
(`noticed_onto`), and calls chain.
-/

namespace SignalPeek

variable {ω ν α σ : Type}

/-! ## Mishaps -/

/-- The phase that a signal is due in. -/
def Signal.duePhase : Signal α → Phase
  | .subscribe _ => .init
  | .next _ | .error _ | .complete => .active

/-- What may go amiss at a layer. -/
inductive Mishap (α : Type) where
  /-- A signal came in a phase that it was not due in. -/
  | refused (signal : Signal α) (phase : Phase)
  /-- A hook failed. -/
  | failed (occasion : Occasion α) (failure : HookError)

/-- A record in which the operator is named before all other fields. -/
def Record.told (level : Level) (message operator : String) (details : List (String × String)) :
    Record where
  level := level
  message := message
  fields := (("operator", operator) :: details).map fun (key, value) => (key, .text value)

/-- The signals that take the place of one over which the hook for this occasion failed. -/
def Occasion.substitutes (error : StreamError) : Occasion α → List (Signal α)
  | .seed => [.subscribe .inert, .error error]
  | .next _ | .complete => [.error error]
  | .error given => [.error (error.withSuppressed given)]

namespace Mishap

/-- **What is written of a mishap.**  A failure is written with the error that is made of it, and
one over an error with that error too. -/
def record (operator : String) : Mishap α → Record
  | .refused (.subscribe _) _ =>
    .told .debug "duplicate on_subscribe; cancelling new subscription" operator []
  | .refused (.next _) phase =>
    .told .debug "signal dropped outside active phase" operator
      [("signal", "on_next"), ("phase", phase.name)]
  | .refused .complete phase =>
    .told .debug "signal dropped outside active phase" operator
      [("signal", "on_complete"), ("phase", phase.name)]
  | .refused (.error error) _ =>
    .told .warn "error dropped outside active phase" operator [("error", error.text)]
  | .failed occasion failure =>
    match failure.route, occasion with
    | .ok error, .seed => .told .debug "seed failed" operator [("error", error.text)]
    | .ok error, .next _ =>
      .told .debug "next hook failed; cancelling upstream" operator [("error", error.text)]
    | .ok error, .error given =>
      .told .debug "error hook failed" operator [("error", error.text), ("original", given.text)]
    | .ok error, .complete =>
      .told .debug "complete hook failed" operator [("error", error.text)]
    | .error fatal, occasion =>
      .told .warn "fatal hook error escaping" operator
        [("signal", occasion.kind.name), ("error", fatal.text)]

/-- What a layer does itself about a mishap.  It cancels a subscription that it has no use for,
gives its sink an error, and cancels its parent where an item is held back for good. -/
def acts (config : Config) (parent : Option Subscription) : Mishap α → List (Event ν α)
  | .refused (.subscribe offered) _ => offered.called [.cancel]
  | .refused (.error error) _ => config.sink error
  | .failed (.next _) failure =>
    match failure.route with
    | .ok _ => (parent.map (·.called [.cancel])).getD []
    | .error _ => []
  | _ => []

/-- The signals that a layer sends because of a mishap.  A failure for good is returned and not
sent. -/
def sends : Mishap α → List (Signal α)
  | .refused _ _ => []
  | .failed occasion failure =>
    match failure.route with
    | .ok error => occasion.substitutes error
    | .error _ => []

end Mishap

/-! ## Mishaps and records in a trace -/

namespace Moment

/-- The phase of the layer at a depth, as a moment shows it. -/
def phaseAt? (depth : ℕ) (moment : Moment ν α) : Option Phase :=
  moment.standings[depth]?.map Standing.phase

/-- What goes amiss at the layer at a depth: a signal arrives and finds another phase than the one
it is due in, or a hook fails. -/
def mishap? (depth : ℕ) (moment : Moment ν α) : Option (Mishap α) :=
  match moment.signalAt? depth with
  | some signal => ((moment.phaseAt? depth).filter (· ≠ signal.duePhase)).map (.refused signal)
  | none => (moment.hookRunAt? depth).bind fun run => run.failure.map (.failed run.occasion)

/-- The record that the layer at a depth writes. -/
def recordAt? (depth : ℕ) (moment : Moment ν α) : Option Record :=
  if moment.layer = depth then moment.event.record? else none

/-- The subscription that arrives at the layer at a depth. -/
def subscriptionAt? (depth : ℕ) (moment : Moment ν α) : Option Subscription :=
  (moment.signalAt? depth).bind Signal.subscription?

variable {depth : ℕ} {moment : Moment ν α}

@[simp] lemma mishap?_succ_beneath (above : Standing) :
    (moment.beneath above).mishap? (depth + 1) = moment.mishap? depth := by
  simp only [mishap?, signalAt?_succ_beneath, hookRunAt?_succ_beneath]
  rfl

@[simp] lemma recordAt?_succ_beneath (above : Standing) :
    (moment.beneath above).recordAt? (depth + 1) = moment.recordAt? depth := by
  simp only [recordAt?, beneath, Nat.add_right_cancel_iff]

@[simp] lemma subscriptionAt?_succ_beneath (above : Standing) :
    (moment.beneath above).subscriptionAt? (depth + 1) = moment.subscriptionAt? depth := by
  simp only [subscriptionAt?, signalAt?_succ_beneath]

/-- A mishap is no record. -/
lemma recordAt?_of_mishap? {mishap : Mishap α} (happens : moment.mishap? depth = some mishap) :
    moment.recordAt? depth = none := by
  obtain ⟨layer, standings, event⟩ := moment
  cases event with
  | notice operator notice => simp [mishap?, signalAt?, hookRunAt?, Event.hookRun?] at happens
  | _ => simp [recordAt?, Event.record?]

/-- At this moment nothing goes amiss at the layer, it writes nothing, and no subscription arrives
there. -/
structure Uneventful (depth : ℕ) (moment : Moment ν α) : Prop where
  well : moment.mishap? depth = none
  silent : moment.recordAt? depth = none
  unsubscribed : moment.subscriptionAt? depth = none

lemma uneventful_of_ne (h : moment.layer ≠ depth) : moment.Uneventful depth := by
  have hsignal := signalAt?_of_ne h
  refine ⟨?_, if_neg h, ?_⟩
  · simp [mishap?, hsignal, hookRunAt?, h]
  · simp [subscriptionAt?, hsignal]

lemma uneventful_of_quiet (quiet : moment.event.Quiet) : moment.Uneventful depth := by
  have hsignal := signalAt?_of_received? depth quiet.unreceived
  refine ⟨?_, ?_, ?_⟩
  · simp [mishap?, hsignal, hookRunAt?, quiet.idle]
  · simp [recordAt?, quiet.silent]
  · simp [subscriptionAt?, hsignal]

lemma uneventful_of_hook {run : HookRun ν α} (h : moment.event = .hook run)
    (calm : run.failure = none) : moment.Uneventful depth := by
  have unreceived : moment.event.received? = none := by
    rw [h]
    rfl
  have hsignal := signalAt?_of_received? depth unreceived
  refine ⟨?_, ?_, ?_⟩
  · simp only [mishap?, hsignal, hookRunAt?, h]
    split <;> simp [calm]
  · simp [recordAt?, h, Event.record?]
  · simp [subscriptionAt?, hsignal]

end Moment

/-- What goes amiss at the layer at a depth in the course of a trace. -/
def mishapsAt (depth : ℕ) (trace : List (Moment ν α)) : List (Mishap α) :=
  trace.filterMap (·.mishap? depth)

/-- What the layer at a depth writes in the course of a trace. -/
def recordsAt (depth : ℕ) (trace : List (Moment ν α)) : List Record :=
  trace.filterMap (·.recordAt? depth)

/-- Where every signal finds the phase it is due in and no hook fails, nothing goes amiss. -/
lemma mishapsAt_eq_nil {depth : ℕ} {trace : List (Moment ν α)}
    (due : ∀ moment ∈ trace, ∀ signal ∈ moment.signalAt? depth,
      moment.phaseAt? depth = some signal.duePhase)
    (calm : ∀ run ∈ hookRunsAt depth trace, run.failure = none) : mishapsAt depth trace = [] := by
  rw [mishapsAt, List.filterMap_eq_nil_iff]
  intro moment hmem
  cases hsignal : moment.signalAt? depth with
  | some signal => simp [Moment.mishap?, hsignal, due moment hmem signal hsignal]
  | none =>
      cases hrun : moment.hookRunAt? depth with
      | none => simp [Moment.mishap?, hsignal, hrun]
      | some run =>
          have hfailure := calm run (List.mem_filterMap.mpr ⟨moment, hmem, hrun⟩)
          simp [Moment.mishap?, hsignal, hrun, hfailure]

/-! ## Notices -/

/-- The first that happens is that this signal arrives at the layer at this depth. -/
def OpensWith (depth : ℕ) (signal : Signal α) (trace : List (Moment ν α)) : Prop :=
  ∃ moment rest, trace = moment :: rest ∧ moment.signalAt? depth = some signal

namespace OpensWith

variable {depth : ℕ} {signal : Signal α} {trace : List (Moment ν α)}

lemma append (opens : OpensWith depth signal trace) (later : List (Moment ν α)) :
    OpensWith depth signal (trace ++ later) := by
  obtain ⟨moment, rest, rfl, arrives⟩ := opens
  exact ⟨moment, rest ++ later, rfl, arrives⟩

lemma beneath (opens : OpensWith depth signal trace) (above : Standing) :
    OpensWith (depth + 1) signal (trace.map (·.beneath above)) := by
  obtain ⟨moment, rest, rfl, arrives⟩ := opens
  refine ⟨moment.beneath above, rest.map (·.beneath above), rfl, ?_⟩
  rw [Moment.signalAt?_succ_beneath, arrives]

end OpensWith

/-- **What the record of a mishap announces** is the next that happens: what the layer does itself,
and then the arrival of the first signal that it sends, if it sends any. -/
def Mishap.LeadsTo (config : Config) (depth : ℕ) (parent : Option Subscription)
    (mishap : Mishap α) (rest : List (Moment ν α)) : Prop :=
  ∃ own below, rest = own ++ below ∧ (∀ moment ∈ own, moment.layer = depth)
    ∧ own.map Moment.event = mishap.acts config parent
    ∧ ∀ signal ∈ mishap.sends.head?, OpensWith (depth + 1) signal below

namespace Mishap.LeadsTo

variable {config : Config} {depth : ℕ} {parent : Option Subscription} {mishap : Mishap α}
  {rest : List (Moment ν α)}

lemma append (leads : mishap.LeadsTo config depth parent rest) (later : List (Moment ν α)) :
    mishap.LeadsTo config depth parent (rest ++ later) := by
  obtain ⟨own, below, rfl, there, acts, opens⟩ := leads
  refine ⟨own, below ++ later, List.append_assoc own below later, there, acts, ?_⟩
  intro signal hsignal
  exact (opens signal hsignal).append later

lemma beneath (leads : mishap.LeadsTo config depth parent rest) (above : Standing) :
    mishap.LeadsTo config (depth + 1) parent (rest.map (·.beneath above)) := by
  obtain ⟨own, below, rfl, there, acts, opens⟩ := leads
  refine ⟨own.map (·.beneath above), below.map (·.beneath above), List.map_append, ?_, ?_, ?_⟩
  · intro moment hmem
    obtain ⟨given, hgiven, rfl⟩ := List.mem_map.mp hmem
    exact congrArg (· + 1) (there given hgiven)
  · rw [List.map_map, ← acts]
    rfl
  · intro signal hsignal
    exact (opens signal hsignal).beneath above

end Mishap.LeadsTo

/-- **A trace is noticed** by the layer at a depth.  Right behind a mishap comes its record, and
then what the record announces.  Nothing else is recorded.  The parent of the layer, before the
trace and after it, is the first subscription that arrives. -/
inductive Noticed (config : Config) (depth : ℕ) :
    Option Subscription → List (Moment ν α) → Option Subscription → Prop where
  | nil (parent : Option Subscription) : Noticed config depth parent [] parent
  | mishap {parent parent' : Option Subscription} {moment notice : Moment ν α} {mishap : Mishap α}
      {rest : List (Moment ν α)} (happens : moment.mishap? depth = some mishap)
      (told : notice.recordAt? depth = some (mishap.record config.name))
      (leads : mishap.LeadsTo config depth parent rest)
      (later : Noticed config depth parent rest parent') :
      Noticed config depth parent (moment :: notice :: rest) parent'
  | well {parent parent' : Option Subscription} {moment : Moment ν α} {rest : List (Moment ν α)}
      (well : moment.mishap? depth = none) (silent : moment.recordAt? depth = none)
      (later : Noticed config depth (parent.or (moment.subscriptionAt? depth)) rest parent') :
      Noticed config depth parent (moment :: rest) parent'

namespace Noticed

variable {config : Config} {depth : ℕ} {parent between parent' : Option Subscription}
  {trace later : List (Moment ν α)}

lemma of_uneventful (h : ∀ moment ∈ trace, moment.Uneventful depth) :
    Noticed config depth parent trace parent := by
  induction trace with
  | nil => exact .nil parent
  | cons moment trace ih =>
      obtain ⟨hmoment, htrace⟩ := List.forall_mem_cons.mp h
      refine .well hmoment.well hmoment.silent ?_
      rw [hmoment.unsubscribed, Option.or_none]
      exact ih htrace

lemma append (first : Noticed config depth parent trace between)
    (second : Noticed config depth between later parent') :
    Noticed config depth parent (trace ++ later) parent' := by
  induction first with
  | nil parent => exact second
  | mishap happens told leads _ ih => exact .mishap happens told (leads.append later) (ih second)
  | well well silent _ ih => exact .well well silent (ih second)

lemma beneath (noticed : Noticed config depth parent trace parent') (above : Standing) :
    Noticed config (depth + 1) parent (trace.map (·.beneath above)) parent' := by
  induction noticed with
  | nil parent => exact .nil parent
  | mishap happens told leads _ ih =>
      refine .mishap ?_ ?_ (leads.beneath above) ih
      · rw [Moment.mishap?_succ_beneath, happens]
      · rw [Moment.recordAt?_succ_beneath, told]
  | well well silent _ ih =>
      refine .well ?_ ?_ ?_
      · rw [Moment.mishap?_succ_beneath, well]
      · rw [Moment.recordAt?_succ_beneath, silent]
      · rw [Moment.subscriptionAt?_succ_beneath]
        exact ih

/-- **Records and mishaps match**, one for one and in order. -/
lemma recordsAt_eq (noticed : Noticed config depth parent trace parent') :
    recordsAt depth trace = (mishapsAt depth trace).map (Mishap.record config.name) := by
  induction noticed with
  | nil parent => rfl
  | @mishap _ _ moment notice mishap rest happens told leads _ ih =>
      have hnotice : notice.mishap? depth = none := by
        refine Option.eq_none_iff_forall_ne_some.mpr fun other hother => ?_
        simp [Moment.recordAt?_of_mishap? hother] at told
      simp only [recordsAt, mishapsAt] at ih ⊢
      simp [Moment.recordAt?_of_mishap? happens, happens, told, hnotice, ih]
  | well well silent _ ih =>
      simp only [recordsAt, mishapsAt] at ih ⊢
      simp [well, silent, ih]

end Noticed

/-! ## One turn -/

open Session

lemma Session.accepts_iff {session : Session σ} {signal : Signal α} :
    session.accepts signal = true ↔ session.phase = signal.duePhase := by
  cases session <;> cases signal <;> simp [accepts, phase, Signal.duePhase]

/-- A refusal begins with the record of it. -/
lemma refusal_eq (config : Config) (phase : Phase) (signal : Signal α)
    (parent : Option Subscription) :
    ∃ notice : Notice,
      (refusal config phase signal : List (Event ν α))
        = .notice config.name notice :: (Mishap.refused signal phase).acts config parent
      ∧ notice.record config.name = (Mishap.refused signal phase).record config.name := by
  cases signal <;> exact ⟨_, rfl, rfl⟩

lemma record_failureNotice (name : String) (signal : Signal α) {failure : HookError}
    {error : StreamError} (route : failure.route = .ok error) :
    (signal.failureNotice error).record name
      = (Mishap.failed signal.occasion failure).record name := by
  cases signal <;> simp only [Mishap.record, Signal.occasion, route] <;> rfl

lemma record_fatalEscaping (name : String) (signal : Signal α) {failure : HookError}
    {fatal : Fatal} (route : failure.route = .error fatal) :
    (Notice.fatalEscaping signal.kind fatal).record name
      = (Mishap.failed signal.occasion failure).record name := by
  cases signal <;> simp only [Mishap.record, Signal.occasion, route] <;> rfl

@[simp] lemma Signal.substitutes_occasion (signal : Signal α) (error : StreamError) :
    signal.occasion.substitutes error = signal.substitutes error := by
  cases signal <;> rfl

lemma Mishap.quiet_of_mem_acts {config : Config} {parent : Option Subscription}
    {mishap : Mishap α} {event : Event ν α} (h : event ∈ mishap.acts config parent) :
    event.Quiet := by
  cases mishap with
  | refused signal phase =>
      cases signal with
      | subscribe offered => exact quiet_of_mem_called h
      | error error =>
          simp only [acts, Config.sink] at h
          cases hsink : config.errorSink with
          | none => simp [hsink] at h
          | some sink =>
              obtain rfl : event = .sunk sink error := by simpa [hsink] using h
              exact ⟨rfl, rfl, rfl⟩
      | _ => simp [acts] at h
  | failed occasion failure =>
      cases occasion with
      | next item =>
          cases route : failure.route with
          | error fatal => simp [acts, route] at h
          | ok error =>
              cases parent with
              | none => simp [acts, route] at h
              | some parent =>
                  simp only [acts, route, Option.map_some, Option.getD_some] at h
                  exact quiet_of_mem_called h
      | _ => simp [acts] at h

/-- Over an item the parent is cancelled, if the failure is made into an error. -/
lemma acts_of_route_ok {config : Config} {parent : Subscription} {signal : Signal α}
    {failure : HookError} {error : StreamError} (route : failure.route = .ok error) :
    ((Mishap.failed signal.occasion failure).acts config (some parent) : List (Event ν α))
      = signal.withdrawal parent := by
  cases signal <;> simp [Mishap.acts, Signal.occasion, Signal.withdrawal, route]

lemma acts_of_route_error {config : Config} {parent : Option Subscription} {signal : Signal α}
    {failure : HookError} {fatal : Fatal} (route : failure.route = .error fatal) :
    ((Mishap.failed signal.occasion failure).acts config parent : List (Event ν α)) = [] := by
  cases signal <;> simp [Mishap.acts, Signal.occasion, route]

namespace Noticed

variable {config : Config} {mishap : Mishap α} {moment : Moment ν α} {notice : Notice}
  {lower : List (Moment ν α)}

/-- A mishap, the record of it, and what it announces.  What happens further down is no matter. -/
lemma of_mishap (parent : Option Subscription) (happens : moment.mishap? 0 = some mishap)
    (told : notice.record config.name = mishap.record config.name) (shown : List Standing)
    (deeper : ∀ moment ∈ lower, moment.layer ≠ 0)
    (opens : ∀ given ∈ mishap.sends.head?, OpensWith 1 given lower) :
    Noticed config 0 parent
      (moment :: ⟨0, shown, .notice config.name notice⟩
        :: ((mishap.acts config parent).map (⟨0, shown, ·⟩) ++ lower))
      parent := by
  refine .mishap happens (congrArg some told) ?leads ?later
  case leads =>
    refine ⟨_, lower, rfl, ?_, ?_, opens⟩
    · simp
    · simp [Function.comp_def]
  case later =>
    refine .append (.of_uneventful ?_) (.of_uneventful ?_)
    · intro each hmem
      obtain ⟨event, hevent, rfl⟩ := List.mem_map.mp hmem
      exact Moment.uneventful_of_quiet (Mishap.quiet_of_mem_acts hevent)
    · intro each hmem
      exact Moment.uneventful_of_ne (deeper each hmem)

end Noticed

/-- The arrival of a signal that is due is no mishap, and it may bring the parent. -/
lemma Session.Due.noticed {config : Config} {session : Session σ} {signal : Signal α}
    {parent : Subscription} (due : session.Due signal parent) (below : List Standing)
    {rest : List (Moment ν α)} {parent' : Option Subscription}
    (later : Noticed config 0 (some parent) rest parent') :
    Noticed config 0 session.parent?
      (⟨0, session.standing :: below, .received signal⟩ :: rest) parent' := by
  have hphase : session.phase = signal.duePhase := accepts_iff.mp due.accepts
  refine .well ?well rfl ?later
  case well => simp [Moment.mishap?, Moment.signalAt?, Moment.phaseAt?, standing, hphase]
  case later =>
    have hparent : session.parent?.or signal.subscription? = some parent := due.parent_eq
    simpa [Moment.subscriptionAt?, Moment.signalAt?, hparent] using later

/-- A hook fails over a signal that is due. -/
lemma Session.Due.noticed_failure {session : Session σ} {signal : Signal α}
    {parent : Subscription} (due : session.Due signal parent) (config : Config)
    (below : List Standing) (note : ν) {failure : HookError} {notice : Notice}
    {lower : List (Moment ν α)}
    (told : notice.record config.name
      = (Mishap.failed signal.occasion failure).record config.name)
    (deeper : ∀ moment ∈ lower, moment.layer ≠ 0)
    (opens : ∀ given ∈ (Mishap.failed signal.occasion failure).sends.head?,
      OpensWith 1 given lower) :
    Noticed config 0 session.parent?
      (⟨0, session.standing :: below, .received signal⟩
        :: ⟨0, session.watching parent :: below, .hook (signal.run (some failure) note)⟩
        :: ⟨0, endedStanding parent :: below, .notice config.name notice⟩
        :: (((Mishap.failed signal.occasion failure).acts config (some parent)).map
            (⟨0, endedStanding parent :: below, ·⟩) ++ lower))
      (some parent) :=
  due.noticed below (.of_mishap _ rfl told (endedStanding parent :: below) deeper opens)

/-- **A turn is noticed**, whatever comes of it below. -/
lemma Conduct.noticed {hooks : Hooks ω ν α σ} {config : Config} {session session' : Session σ}
    {signal : Signal α} {events : List (Standing × Event ν α)} {exit : Exit α}
    (conduct : Conduct hooks config session signal events session' exit) (below : List Standing)
    {lower : List (Moment ν α)} (deeper : ∀ moment ∈ lower, moment.layer ≠ 0)
    (opens : ∀ given ∈ exit.signals.head?, OpensWith 1 given lower) :
    Noticed config 0 session.parent?
      (Layer.moments below ((session.standing, .received signal) :: events) ++ lower)
      session'.parent? := by
  cases conduct with
  | refused undue =>
      have hphase : session.phase ≠ signal.duePhase := by
        intro h
        rw [accepts_iff.mpr h] at undue
        cases undue
      obtain ⟨notice, hrefusal, hrecord⟩ :=
        refusal_eq (ν := ν) config session.phase signal session.parent?
      have happens : Moment.mishap? 0
          (⟨0, session.standing :: below, .received signal⟩ : Moment ν α)
            = some (.refused signal session.phase) := by
        simp [Moment.mishap?, Moment.signalAt?, Moment.phaseAt?, standing, hphase]
      have noticed := Noticed.of_mishap session.parent? happens hrecord
        (session.standing :: below) deeper (by simp [Mishap.sends])
      simpa [Layer.moments, under, hrefusal, Function.comp_def] using noticed
  | @passed parent due note there state =>
      have hparent : (Session.after signal parent state).parent? = some parent := by
        unfold Session.after
        split <;> rfl
      rw [hparent]
      refine due.noticed below (.append (.of_uneventful ?hook) (.of_uneventful ?lower))
      case hook =>
        simp only [under, List.map_map, List.forall_mem_map]
        intro note _
        exact Moment.uneventful_of_hook rfl rfl
      case lower =>
        intro moment hmem
        exact Moment.uneventful_of_ne (deeper moment hmem)
  | replaced due note fails route state =>
      have noticed := due.noticed_failure config below note
        (record_failureNotice config.name signal route) deeper ?opens
      · rw [acts_of_route_ok route] at noticed
        simpa [Layer.moments, under, Function.comp_def, parent?] using noticed
      case opens => simpa [Mishap.sends, route, Exit.signals] using opens
  | escaped due note fails route state =>
      have noticed := due.noticed_failure config below note
        (record_fatalEscaping config.name signal route) deeper ?opens
      · rw [acts_of_route_error route] at noticed
        simpa [Layer.moments, under, Function.comp_def, parent?] using noticed
      case opens => simp [Mishap.sends, route]

/-! ## Layers and stacks -/

namespace Subscriber

/-- A subscriber that notes a signal before all that comes of it. -/
def Prompt (S : Subscriber ω ν α) : Prop :=
  ∀ signal state env, OpensWith 0 signal (S.receive signal state env).trace

lemma Prompt.receiveAll {S : Subscriber ω ν α} (prompt : S.Prompt) (signals : List (Signal α))
    (state : S.State) (env : ω) :
    ∀ given ∈ signals.head?, OpensWith 0 given (S.receiveAll signals state env).trace := by
  refine receiveAll_induction
    (motive := fun signals _ outcome => ∀ given ∈ signals.head?, OpensWith 0 given outcome.trace)
    ?nil ?stop ?go signals state env
  case nil =>
    intro state env given h
    simp at h
  case stop =>
    intro signal signals state env fatal _ given h
    obtain rfl : signal = given := by simpa using h
    exact prompt signal state env
  case go =>
    intro signal signals state env rest _ _ given h
    obtain rfl : signal = given := by simpa using h
    exact (prompt signal state env).append rest.trace

end Subscriber

lemma Consumer.prompt (C : Consumer α) : (C.subscriber : Subscriber ω ν α).Prompt := by
  rintro signal ⟨held, own⟩ env
  rw [C.receive_eq]
  exact ⟨_, _, rfl, rfl⟩

namespace Layer

lemma prompt_onto (layer : Layer ω ν α) (actual : Subscriber ω ν α) :
    (layer.onto actual).Prompt := by
  rintro signal ⟨session, below⟩ env
  rw [receive_onto]
  exact ⟨_, _, rfl, rfl⟩

lemma prompt_stack {S : Subscriber ω ν α} (prompt : S.Prompt) :
    ∀ layers : List (Layer ω ν α), (stack layers S).Prompt
  | [] => prompt
  | layer :: layers => prompt_onto layer (stack layers S)

/-- A stack with one layer set apart. -/
lemma stack_append_cons (above below : List (Layer ω ν α)) (layer : Layer ω ν α)
    (S : Subscriber ω ν α) :
    stack (above ++ layer :: below) S = stack above (layer.onto (stack below S)) := by
  simp [stack]

/-- What happens between two states of something is noticed by a layer in it. -/
def NoticedBy {τ : Type} (layer : Layer ω ν α) (session : τ → Session layer.State) (depth : ℕ)
    (before : τ) (trace : List (Moment ν α)) (after : τ) : Prop :=
  Noticed layer.config depth (session before).parent? trace (session after).parent?

/-- Calls are all that matters. -/
lemma NoticedBy.chains {layer : Layer ω ν α} {S : Subscriber ω ν α}
    {session : S.State → Session layer.State} {depth : ℕ}
    (call : ∀ signal state env, layer.NoticedBy session depth state
      (S.receive signal state env).trace (S.receive signal state env).state) :
    S.Chains (layer.NoticedBy session depth) where
  call := call
  quiet _ _ h := .of_uneventful fun moment hmem => Moment.uneventful_of_quiet (h moment hmem)
  append hfirst hsecond := Noticed.append hfirst hsecond

lemma noticed_layer (layer : Layer ω ν α) {actual : Subscriber ω ν α} (prompt : actual.Prompt) :
    (layer.onto actual).Chains (layer.NoticedBy (layer.sessionOf actual) 0) := by
  refine NoticedBy.chains fun signal ⟨session, below⟩ env => ?_
  rw [receive_onto]
  refine (layer.conduct session signal env).noticed (actual.standings below) ?deeper ?opens
  case deeper =>
    intro moment hmem
    obtain ⟨lower, _, rfl⟩ := List.mem_map.mp hmem
    exact Nat.succ_ne_zero lower.layer
  case opens =>
    intro given hgiven
    exact (prompt.receiveAll _ below _ given hgiven).beneath _

/-- **A layer on top** changes nothing about what is noticed further down. -/
lemma noticed_onto (upper : Layer ω ν α) {layer : Layer ω ν α} {S : Subscriber ω ν α}
    {session : S.State → Session layer.State} {depth : ℕ}
    (chains : S.Chains (layer.NoticedBy session depth)) :
    (upper.onto S).Chains (layer.NoticedBy (session ∘ Prod.snd) (depth + 1)) := by
  refine NoticedBy.chains fun signal ⟨above, below⟩ env => ?_
  rw [receive_onto]
  have own : Noticed layer.config (depth + 1) (session below).parent?
      (upper.ownMoments S signal above below env) (session below).parent? := by
    refine .of_uneventful fun moment hmem => Moment.uneventful_of_ne ?_
    obtain ⟨shown, _, rfl⟩ := List.mem_map.mp hmem
    exact (Nat.succ_ne_zero depth).symm
  exact own.append (Noticed.beneath (chains.receiveAll _ below _) _)

lemma noticed_stack (layer : Layer ω ν α) {actual : Subscriber ω ν α} (prompt : actual.Prompt) :
    ∀ above : List (Layer ω ν α), (stack above (layer.onto actual)).Chains
      (layer.NoticedBy (layer.sessionWithin actual above) above.length)
  | [] => layer.noticed_layer prompt
  | upper :: above => noticed_onto upper (layer.noticed_stack prompt above)

end Layer

/-- **A layer is candid** in the course of a trace.  The parents are those before and after it. -/
structure Candid (config : Config) (depth : ℕ) (parent : Option Subscription)
    (trace : List (Moment ν α)) (parent' : Option Subscription) : Prop where
  /-- A mishap is told of at once, and before anything that the record of it announces. -/
  noticed : Noticed config depth parent trace parent'
  /-- Records and mishaps match, one for one and in order. -/
  records : recordsAt depth trace = (mishapsAt depth trace).map (Mishap.record config.name)
  /-- A layer that takes all signals, and of which no hook fails, writes nothing, not even when a
  fatal error passes it on the way back. -/
  silent : (∀ moment ∈ trace, ∀ signal ∈ moment.signalAt? depth,
      moment.phaseAt? depth = some signal.duePhase) →
    (∀ run ∈ hookRunsAt depth trace, run.failure = none) → recordsAt depth trace = []

lemma Noticed.candid {config : Config} {depth : ℕ} {parent parent' : Option Subscription}
    {trace : List (Moment ν α)} (noticed : Noticed config depth parent trace parent') :
    Candid config depth parent trace parent' := by
  refine ⟨noticed, noticed.recordsAt_eq, ?_⟩
  intro due calm
  rw [noticed.recordsAt_eq, mishapsAt_eq_nil due calm, List.map_nil]

namespace Layer

/-- **A layer tells of its mishaps and of nothing else**, wherever it stands in a stack.  This holds
of every call, in whatever state the stack is and whatever the hooks share by then, of every run,
and of all that a source sends. -/
theorem records_match_mishaps (layer : Layer ω ν α) (above below : List (Layer ω ν α))
    (C : Consumer α) :
    let actual := stack below C.subscriber
    let S := stack above (layer.onto actual)
    let session := layer.sessionWithin actual above
    (∀ stimulus state env,
        let outcome := S.respond stimulus state env
        Candid layer.config above.length (session state).parent? outcome.trace
          (session outcome.state).parent?)
      ∧ (∀ stimuli env,
        let run := S.history stimuli env
        Candid layer.config above.length none run.trace (session run.state).parent?)
      ∧ ∀ P : Publisher ω ν α, P.layers = above ++ layer :: below → ∀ env,
        let trace := (P.subscribe C.subscriber env).trace
        ∃ parent, Candid layer.config above.length none trace parent := by
  intro actual S session
  have prompt : actual.Prompt := prompt_stack C.prompt below
  have chains : S.Chains (layer.NoticedBy session above.length) := layer.noticed_stack prompt above
  have fresh : (session S.init).parent? = none :=
    congrArg Session.parent? (layer.sessionWithin_init actual above)
  refine ⟨?call, ?run, ?source⟩
  case call =>
    intro stimulus state env outcome
    exact (chains.respond stimulus state env).candid
  case run =>
    intro stimuli env run
    have noticed : layer.NoticedBy session above.length S.init run.trace run.state :=
      chains.history stimuli env
    rw [NoticedBy, fresh] at noticed
    exact noticed.candid
  case source =>
    intro P hlayers env trace
    have hstack : stack P.layers C.subscriber = S := by
      rw [hlayers, stack_append_cons]
    have noticed := chains.subscribe hstack env
    rw [NoticedBy, fresh] at noticed
    exact ⟨_, noticed.candid⟩

/-- The layer in the middle fails over an item, and the one below it fails for good over the error
that is made of that.  The fatal error passes the upper two layers and leaves no record there.  The
source goes on, and the layer in the middle refuses what still comes. -/
theorem records_match_around_balking :
    let stop : Cause := .mk 0 (.message "stop")
    let fatal : Fatal := .mk (.mk 1 (.message "oom"))
    let last : Layer Unit Unit ℕ := grumbling () fun _ => .fatal fatal
    let given : List (Signal ℕ) :=
      [Source.opening, .next 1, .next 2, .error (.lone (.mk 2 (.message "late")))]
    let P : Publisher Unit Unit ℕ :=
      .peek (.peek (.peek (.source (.cued given true)) plain) (balking () stop)) last
    let trace := (P.subscribe (Consumer.asking 0).subscriber ()).trace
    recordsAt 0 trace = []
      ∧ recordsAt 1 trace
        = [.told .debug "next hook failed; cancelling upstream" "peek_stateful"
            [("error", "stop")],
          .told .debug "signal dropped outside active phase" "peek_stateful"
            [("signal", "on_next"), ("phase", "Terminated")],
          .told .warn "error dropped outside active phase" "peek_stateful" [("error", "late")]]
      ∧ recordsAt 2 trace
        = [.told .warn "fatal hook error escaping" "peek_stateful"
            [("signal", "on_error"), ("error", "fatal: oom")]]
      ∧ P.layers = [plain] ++ balking () stop :: [last]
      ∧ ∃ parent, Candid Config.standard 1 none trace parent := by
  intro stop fatal last given P trace
  obtain ⟨-, -, published⟩ :=
    records_match_mishaps (balking () stop) [plain] [last] (Consumer.asking 0)
  exact ⟨by decide +kernel, by decide +kernel, by decide +kernel, rfl, published P rfl ()⟩

end Layer

end SignalPeek
