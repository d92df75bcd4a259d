import Mathlib.Tactic.Common
import SignalPeek.Proofs.Conduct
import SignalPeek.Proofs.DoubleFault
import SignalPeek.Proofs.Escape

/-!
# What travels down a stack

Three facts about all signals below a layer, whatever depth they are heard at.

**Classes of signals.**  A layer passes on what it was given, or what it puts in its place.  So a
class of signals that is closed under both (`Closed`) is never left on the way down, provided that
the faults of the hooks fit it (`carries_stack`).

**Kinds.**  Besides a kind that it was given, a layer passes on errors only, and its hooks run for
what it was given.  So kinds that include errors are not left (`confines_stack`).

**Sealing.**  An ended layer passes nothing on.  So a stack with an ended layer in it is sealed:
the consumer at its end hears nothing any more, whatever is sent (`sealed_stack`,
`silence_of_sealed`).
-/

namespace SignalPeek

variable {ω ν α σ : Type}

/-! ## Classes of signals -/

/-- A class of signals that layers do not leave, as long as hooks fail with fit errors only. -/
structure Closed (Q : Signal α → Prop) (Fit : StreamError → Prop) : Prop where
  relayed : ∀ signal, Q signal → Q signal.relayed
  substitutes : ∀ signal error, Q signal → Fit error → ∀ s ∈ signal.substitutes error, Q s

/-- A property of errors that attaching keeps is not left by the errors that layers pass on. -/
lemma Closed.errors {P : StreamError → Prop}
    (attach : ∀ {fault before : StreamError}, P fault → P before →
      P (fault.withSuppressed before)) :
    Closed (fun signal : Signal α => ∀ e, signal = .error e → P e) P where
  relayed signal given := by
    cases signal with
    | subscribe parent => exact fun e h => nomatch h
    | _ => exact given
  substitutes signal error given fit := by
    have replaced : ∀ e, (Signal.error error : Signal α) = .error e → P e :=
      fun e h => Signal.error.inj h ▸ fit
    cases signal with
    | subscribe parent =>
        refine List.forall_mem_cons.mpr ⟨?_, List.forall_mem_singleton.mpr replaced⟩
        exact fun e h => nomatch h
    | error before =>
        refine List.forall_mem_singleton.mpr fun e h => ?_
        exact Signal.error.inj h ▸ attach fit (given before rfl)
    | _ => exact List.forall_mem_singleton.mpr replaced

/-- All signals that arrive anywhere in the course of a trace are of the class. -/
def Told (Q : Signal α → Prop) (trace : List (Moment ν α)) : Prop :=
  ∀ moment ∈ trace, ∀ signal, moment.event.received? = some signal → Q signal

lemma Told.append {Q : Signal α → Prop} {first second : List (Moment ν α)} (hfirst : Told Q first)
    (hsecond : Told Q second) : Told Q (first ++ second) :=
  List.forall_mem_append.mpr ⟨hfirst, hsecond⟩

lemma Told.beneath {Q : Signal α → Prop} {trace : List (Moment ν α)} (told : Told Q trace)
    (above : Standing) : Told Q (trace.map (·.beneath above)) :=
  List.forall_mem_map.mpr told

lemma Told.of_mem_signalsAt {Q : Signal α → Prop} {trace : List (Moment ν α)} (told : Told Q trace)
    {depth : ℕ} {signal : Signal α} (h : signal ∈ signalsAt depth trace) : Q signal := by
  obtain ⟨moment, hmem, hsignal⟩ := List.mem_filterMap.mp h
  exact told moment hmem signal (Moment.received?_of_signalAt? hsignal)

lemma Event.fault?_run {failure : HookError} {error : StreamError}
    (route : failure.route = .ok error) (signal : Signal α) (note : ν) :
    (Event.hook (signal.run (some failure) note)).fault? = some error := by
  simp [Event.fault?, Signal.run, route, Except.toOption]

/-- What a layer passes on is of the class of what it was given. -/
lemma Conduct.closed {hooks : Hooks ω ν α σ} {config : Config} {session session' : Session σ}
    {signal : Signal α} {events : List (Standing × Event ν α)} {exit : Exit α}
    (conduct : Conduct hooks config session signal events session' exit) {Q : Signal α → Prop}
    {Fit : StreamError → Prop} (closed : Closed Q Fit) (given : Q signal)
    (fit : ∀ fault ∈ events.filterMap (·.2.fault?), Fit fault) : ∀ s ∈ exit.signals, Q s := by
  cases conduct with
  | refused undue => exact List.forall_mem_nil _
  | passed due note there state => exact List.forall_mem_singleton.mpr (closed.relayed _ given)
  | @replaced parent due note failure error fails route state =>
      refine closed.substitutes signal error given (fit error (List.mem_filterMap.mpr ?_))
      exact ⟨(session.watching parent, .hook (signal.run (some failure) note)),
        List.mem_append_left _ (List.mem_singleton_self _), Event.fault?_run route signal note⟩
  | escaped due note fails route state => exact List.forall_mem_nil _

namespace Subscriber

/-- What is heard below is of the class of what was sent. -/
def Carries (S : Subscriber ω ν α) (Q : Signal α → Prop) (Fit : StreamError → Prop) : Prop :=
  ∀ signal state env, Q signal → (∀ fault ∈ faults (S.receive signal state env).trace, Fit fault) →
    Told Q (S.receive signal state env).trace

lemma Carries.receiveAll {S : Subscriber ω ν α} {Q : Signal α → Prop} {Fit : StreamError → Prop}
    (carries : S.Carries Q Fit) {signals : List (Signal α)} (given : ∀ s ∈ signals, Q s)
    (state : S.State) (env : ω)
    (fit : ∀ fault ∈ faults (S.receiveAll signals state env).trace, Fit fault) :
    Told Q (S.receiveAll signals state env).trace := by
  refine receiveAll_induction
    (motive := fun signals _ outcome => (∀ s ∈ signals, Q s) →
      (∀ fault ∈ faults outcome.trace, Fit fault) → Told Q outcome.trace)
    ?nil ?stop ?go signals state env given fit
  case nil => exact fun _ _ _ _ => List.forall_mem_nil _
  case stop =>
    intro signal signals state env _ _ given fit
    exact carries signal state env (given signal List.mem_cons_self) fit
  case go =>
    intro signal signals state env rest _ ih given fit
    obtain ⟨hsignal, hsignals⟩ := List.forall_mem_cons.mp given
    simp only [Outcome.precededBy, faults_append, List.forall_mem_append] at fit ⊢
    exact (carries signal state env hsignal fit.1).append (ih hsignals fit.2)

/-- In a run the class is not left either. -/
lemma Carries.history {S : Subscriber ω ν α} {Q : Signal α → Prop} {Fit : StreamError → Prop}
    (carries : S.Carries Q Fit) {stimuli : List (Stimulus α)}
    (given : ∀ signal, Stimulus.signal signal ∈ stimuli → Q signal) (env : ω)
    (fit : ∀ fault ∈ faults (S.history stimuli env).trace, Fit fault) :
    Told Q (S.history stimuli env).trace := by
  refine S.run_induction
    (motive := fun stimuli run => (∀ signal, Stimulus.signal signal ∈ stimuli → Q signal) →
      (∀ fault ∈ faults run.trace, Fit fault) → Told Q run.trace) ?start ?step stimuli given fit
  case start => exact fun _ _ => List.forall_mem_nil _
  case step =>
    intro past run stimulus ih given fit
    simp only [Run.extend, faults_append, List.forall_mem_append] at fit ⊢
    refine (ih (fun signal h => given signal (List.mem_append_left _ h)) fit.1).append ?_
    cases stimulus with
    | signal signal =>
        have hsignal := given signal (List.mem_append_right _ (List.mem_singleton_self _))
        exact carries signal run.state run.env hsignal fit.2
    | call call =>
        intro moment h signal hs
        obtain ⟨channel, call', hevent⟩ := S.eq_called_of_mem_respond h
        simp [hevent, Event.received?] at hs

end Subscriber

lemma Consumer.carries (C : Consumer α) (Q : Signal α → Prop) (Fit : StreamError → Prop) :
    (C.subscriber : Subscriber ω ν α).Carries Q Fit := by
  rintro signal ⟨held, own⟩ env given _
  rw [C.receive_eq]
  refine List.forall_mem_map.mpr (List.forall_mem_cons.mpr ⟨?_, fun event h s hs => ?_⟩)
  · intro s hs
    obtain rfl : signal = s := Option.some.inj hs
    exact given
  · rcases Reaction.of_mem_events h with ⟨channel, call, rfl⟩ | ⟨fatal, rfl⟩ <;>
      simp [Event.received?] at hs

namespace Layer

lemma told_ownMoments (layer : Layer ω ν α) (actual : Subscriber ω ν α) {Q : Signal α → Prop}
    {signal : Signal α} (given : Q signal) (session : Session layer.State) (below : actual.State)
    (env : ω) : Told Q (layer.ownMoments actual signal session below env) := by
  refine List.forall_mem_map.mpr (List.forall_mem_cons.mpr ⟨?_, fun shown h s hs => ?_⟩)
  · intro s hs
    obtain rfl : signal = s := Option.some.inj hs
    exact given
  · have hown := Session.own_of_mem_turn layer.hooks layer.config session signal env shown h
    exact absurd (hs.symm.trans (Event.received?_of_own hown)) (Option.some_ne_none s)

lemma carries_onto (layer : Layer ω ν α) {actual : Subscriber ω ν α} {Q : Signal α → Prop}
    {Fit : StreamError → Prop} (closed : Closed Q Fit) (carries : actual.Carries Q Fit) :
    (layer.onto actual).Carries Q Fit := by
  rintro signal ⟨session, below⟩ env given fit
  rw [receive_onto] at fit ⊢
  simp only [faults_append, faults_map_beneath, faults_ownMoments, List.forall_mem_append] at fit
  have passed : Told Q (layer.passedOn actual signal session below env).trace :=
    carries.receiveAll ((layer.conduct session signal env).closed closed given fit.1) _ _ fit.2
  exact (layer.told_ownMoments actual given session below env).append (passed.beneath _)

/-- **A closed class of signals is not left** on the way down a stack. -/
theorem carries_stack (C : Consumer α) {Q : Signal α → Prop} {Fit : StreamError → Prop}
    (closed : Closed Q Fit) : ∀ layers : List (Layer ω ν α),
    (stack layers C.subscriber).Carries Q Fit
  | [] => C.carries Q Fit
  | layer :: layers => layer.carries_onto closed (carries_stack C closed layers)

end Layer

/-! ## Kinds -/

lemma Lead.relayed {phase phase' : Phase} {signal : Signal α} (lead : Lead phase signal phase') :
    Lead phase signal.relayed phase' := by
  cases lead with
  | begins subscription => exact .begins _
  | goesOn item => exact .goesOn item
  | ends terminal =>
      refine .ends ?_
      cases signal <;> exact terminal

/-- The kind of a signal that arrives, or that a hook is called for. -/
def Event.kind? : Event ν α → Option SignalKind
  | .received signal => some signal.kind
  | .hook run => some run.occasion.kind
  | _ => none

lemma Event.kind?_of_hookRun? {event : Event ν α} {run : HookRun ν α}
    (h : event.hookRun? = some run) : event.kind? = some run.occasion.kind := by
  cases event with
  | hook given =>
      obtain rfl : given = run := Option.some.inj h
      rfl
  | _ => exact absurd h (Option.some_ne_none run).symm

/-- All that arrives in the course of a trace, and all that hooks are called for, is of these kinds.
-/
def Confined (Kind : SignalKind → Prop) (trace : List (Moment ν α)) : Prop :=
  ∀ moment ∈ trace, ∀ kind, moment.event.kind? = some kind → Kind kind

namespace Confined

variable {Kind : SignalKind → Prop} {trace : List (Moment ν α)}

lemma hookRun (confined : Confined Kind trace) {moment : Moment ν α} (h : moment ∈ trace)
    {run : HookRun ν α} (hrun : moment.event.hookRun? = some run) : Kind run.occasion.kind :=
  confined moment h _ (Event.kind?_of_hookRun? hrun)

lemma received (confined : Confined Kind trace) {moment : Moment ν α} (h : moment ∈ trace)
    {signal : Signal α} (hsignal : moment.event.received? = some signal) : Kind signal.kind := by
  refine confined moment h _ ?_
  cases hevent : moment.event with
  | received given =>
      rw [hevent] at hsignal
      obtain rfl : given = signal := Option.some.inj hsignal
      rfl
  | _ => simp [hevent, Event.received?] at hsignal

lemma append {second : List (Moment ν α)} (hfirst : Confined Kind trace)
    (hsecond : Confined Kind second) : Confined Kind (trace ++ second) :=
  List.forall_mem_append.mpr ⟨hfirst, hsecond⟩

lemma beneath (confined : Confined Kind trace) (above : Standing) :
    Confined Kind (trace.map (·.beneath above)) :=
  List.forall_mem_map.mpr confined

end Confined

/-- What a turn shows is of the kind of the signal, and what it passes on too, or an error. -/
lemma Conduct.kinds {hooks : Hooks ω ν α σ} {config : Config} {session session' : Session σ}
    {signal : Signal α} {events : List (Standing × Event ν α)} {exit : Exit α}
    (conduct : Conduct hooks config session signal events session' exit) :
    (∀ run ∈ events.filterMap (·.2.hookRun?), run.occasion.kind = signal.kind)
      ∧ ∀ s ∈ exit.signals, s.kind = signal.kind ∨ s.kind = .error := by
  refine ⟨fun run h => ?_, ?_⟩
  · rw [(conduct.of_mem_hookRuns h).2.1, signal.kind_occasion]
  · cases conduct with
    | refused undue => exact List.forall_mem_nil _
    | passed due note there state =>
        refine List.forall_mem_singleton.mpr (Or.inl ?_)
        cases signal <;> rfl
    | replaced due note fails route state =>
        cases signal with
        | subscribe parent =>
            exact List.forall_mem_cons.mpr ⟨Or.inl rfl, List.forall_mem_singleton.mpr (Or.inr rfl)⟩
        | _ => exact List.forall_mem_singleton.mpr (Or.inr rfl)
    | escaped due note fails route state => exact List.forall_mem_nil _

namespace Subscriber

/-- Signals of these kinds lead to nothing but signals of these kinds. -/
def Confines (S : Subscriber ω ν α) (Kind : SignalKind → Prop) : Prop :=
  ∀ signal state env, Kind signal.kind → Confined Kind (S.receive signal state env).trace

lemma Confines.receiveAll {S : Subscriber ω ν α} {Kind : SignalKind → Prop}
    (confines : S.Confines Kind) {signals : List (Signal α)} (given : ∀ s ∈ signals, Kind s.kind)
    (state : S.State) (env : ω) : Confined Kind (S.receiveAll signals state env).trace := by
  refine receiveAll_induction
    (motive := fun signals _ outcome => (∀ s ∈ signals, Kind s.kind) → Confined Kind outcome.trace)
    ?nil ?stop ?go signals state env given
  case nil => exact fun _ _ _ => List.forall_mem_nil _
  case stop =>
    intro signal signals state env _ _ given
    exact confines signal state env (given signal List.mem_cons_self)
  case go =>
    intro signal signals state env rest _ ih given
    obtain ⟨hsignal, hsignals⟩ := List.forall_mem_cons.mp given
    exact (confines signal state env hsignal).append (ih hsignals)

end Subscriber

lemma Consumer.confines (C : Consumer α) (Kind : SignalKind → Prop) :
    (C.subscriber : Subscriber ω ν α).Confines Kind := by
  rintro signal ⟨held, own⟩ env given
  rw [C.receive_eq]
  refine List.forall_mem_map.mpr (List.forall_mem_cons.mpr ⟨?_, fun event h kind hkind => ?_⟩)
  · intro kind hkind
    obtain rfl : signal.kind = kind := Option.some.inj hkind
    exact given
  · rcases Reaction.of_mem_events h with ⟨channel, call, rfl⟩ | ⟨fatal, rfl⟩ <;>
      simp [Event.kind?] at hkind

namespace Layer

lemma confined_ownMoments (layer : Layer ω ν α) (actual : Subscriber ω ν α)
    {Kind : SignalKind → Prop} {signal : Signal α} (given : Kind signal.kind)
    (session : Session layer.State) (below : actual.State) (env : ω) :
    Confined Kind (layer.ownMoments actual signal session below env) := by
  refine List.forall_mem_map.mpr (List.forall_mem_cons.mpr ⟨?_, fun ⟨_, event⟩ h kind hkind => ?_⟩)
  · intro kind hkind
    obtain rfl : signal.kind = kind := Option.some.inj hkind
    exact given
  · have hown := Session.own_of_mem_turn layer.hooks layer.config session signal env _ h
    cases event with
    | hook run =>
        obtain rfl : run.occasion.kind = kind := Option.some.inj hkind
        have hkind := (layer.conduct session signal env).kinds.1 run
          (List.mem_filterMap.mpr ⟨_, h, rfl⟩)
        exact hkind ▸ given
    | received s => simp [Event.own] at hown
    | _ => exact absurd hkind (Option.some_ne_none kind).symm

lemma confines_onto (layer : Layer ω ν α) {actual : Subscriber ω ν α} {Kind : SignalKind → Prop}
    (error : Kind .error) (confines : actual.Confines Kind) :
    (layer.onto actual).Confines Kind := by
  rintro signal ⟨session, below⟩ env given
  have passed : Confined Kind (layer.passedOn actual signal session below env).trace := by
    refine confines.receiveAll (fun s hs => ?_) below _
    rcases (layer.conduct session signal env).kinds.2 s hs with hkind | hkind
    · exact hkind ▸ given
    · exact hkind ▸ error
  rw [receive_onto]
  exact (layer.confined_ownMoments actual given session below env).append (passed.beneath _)

/-- **Kinds that include errors are not left** on the way down a stack. -/
theorem confines_stack (C : Consumer α) (Kind : SignalKind → Prop) (error : Kind .error) :
    ∀ layers : List (Layer ω ν α), (stack layers C.subscriber).Confines Kind
  | [] => C.confines Kind
  | layer :: layers => layer.confines_onto error (confines_stack C Kind error layers)

end Layer

/-! ## Sealing -/

namespace Subscriber

/-- Once a layer of the subscriber has ended, nothing is heard at some depth below, and the layer
stays ended. -/
def Sealed (S : Subscriber ω ν α) (depth : ℕ) : Prop :=
  ∀ (signal : Signal α) ⦃state⦄ (env : ω), .terminated ∈ S.phases state →
    signalsAt depth (S.receive signal state env).trace = []
      ∧ .terminated ∈ S.phases (S.receive signal state env).state

lemma Sealed.receiveAll {S : Subscriber ω ν α} {depth : ℕ} (hsealed : S.Sealed depth)
    (signals : List (Signal α)) {state : S.State} (env : ω)
    (ended : .terminated ∈ S.phases state) :
    signalsAt depth (S.receiveAll signals state env).trace = []
      ∧ .terminated ∈ S.phases (S.receiveAll signals state env).state := by
  refine receiveAll_induction
    (motive := fun _ state outcome => .terminated ∈ S.phases state →
      signalsAt depth outcome.trace = [] ∧ .terminated ∈ S.phases outcome.state)
    ?nil ?stop ?go signals state env ended
  case nil => exact fun _ _ ended => ⟨rfl, ended⟩
  case stop =>
    intro signal _ state env _ _ ended
    exact hsealed signal env ended
  case go =>
    intro signal _ state env rest _ ih ended
    obtain ⟨hquiet, hended⟩ := hsealed signal env ended
    obtain ⟨hrest, hended'⟩ := ih hended
    simp only [Outcome.precededBy, signalsAt_append, hquiet, hrest]
    exact ⟨rfl, hended'⟩

/-- **Silence behind an ended layer**, through any stimuli and whatever escapes. -/
lemma silence_of_sealed {S : Subscriber ω ν α} {depth : ℕ} (hsealed : S.Sealed depth)
    {state : S.State} (ended : .terminated ∈ S.phases state) (stimuli : List (Stimulus α))
    (env : ω) : signalsAt depth (S.run stimuli state env).trace = [] := by
  refine (S.run_induction (motive := fun _ run => .terminated ∈ S.phases run.state
    ∧ signalsAt depth run.trace = []) ⟨ended, rfl⟩ ?step stimuli).2
  case step =>
    rintro past run stimulus ⟨hended, hquiet⟩
    simp only [Run.extend, signalsAt_append, hquiet, List.nil_append]
    cases stimulus with
    | signal signal =>
        obtain ⟨hheard, hended'⟩ := hsealed signal run.env hended
        exact ⟨hended', hheard⟩
    | call call => exact ⟨hended, S.signalsAt_respond_call depth call run.state run.env⟩

end Subscriber

namespace Layer

@[simp] lemma phases_onto (layer : Layer ω ν α) (actual : Subscriber ω ν α)
    (session : Session layer.State) (below : actual.State) :
    (layer.onto actual).phases (session, below) = session.phase :: actual.phases below := rfl

lemma sealed_onto (layer : Layer ω ν α) {actual : Subscriber ω ν α} {depth : ℕ}
    (hsealed : actual.Sealed depth) : (layer.onto actual).Sealed (depth + 1) := by
  rintro signal ⟨session, below⟩ env ended
  rcases List.mem_cons.mp ended with hsession | hbelow
  · rw [receive_onto_of_not_accepts (not_accepts_of_terminated hsession.symm signal)]
    exact ⟨signalsAt_succ_ownMoments depth signal session below env, ended⟩
  · have passed := hsealed.receiveAll (layer.turn session signal env).exit.signals
      (layer.turn session signal env).env hbelow
    rw [signalsAt_succ_receive_onto, receive_onto]
    exact ⟨passed.1, List.mem_cons_of_mem _ passed.2⟩

lemma sealed_stack (C : Consumer α) : ∀ layers : List (Layer ω ν α),
    (stack layers C.subscriber).Sealed layers.length
  | [] => fun _ _ _ ended => absurd ended List.not_mem_nil
  | layer :: layers => layer.sealed_onto (sealed_stack C layers)

end Layer

end SignalPeek
