import Mathlib.Tactic.Common
import SignalPeek.Proofs.Concert
import SignalPeek.Proofs.Conduct
import SignalPeek.Publisher

/-!
# Where a fatal error comes from

A fatal error escapes from a subscription exactly when something in it failed for good, and it is
the very error that came up there.  From then on nothing happens any more: no hook runs, no signal
arrives, and no call reaches the source.  Only the layer whose hook failed still gives a warning
(`escaped_iff_exists_grave`).

**Grave events.**  There are two: a hook fails with a fatal severity, and the consumer answers with
a fatal error (`Event.isGrave`).

**Accounts.**  `Accounted` ties a trace to what escaped: either nothing escaped and no event is
grave, or the trace ends in a `Parting`.  It holds of an idle outcome and of every turn of a layer,
and it is kept where outcomes are put one after the other and where one layer comes on top.  So it
holds of every subscriber and of every source that stops at a fatal error.
-/

namespace SignalPeek

variable {ω ν α σ : Type}

/-- A failure is a fatal error, or is recoverable in form and has it for a cause. -/
inductive HookError.Holds : HookError → Fatal → Prop where
  | itself (fatal : Fatal) : Holds (.fatal fatal) fatal
  | erased (ident : Ident) (fatal : Fatal) :
      Holds (.recoverable (.mk ident (.fatal fatal))) fatal

lemma HookError.holds_of_route {failure : HookError} {fatal : Fatal}
    (route : failure.route = .error fatal) : failure.Holds fatal := by
  cases failure with
  | fatal given =>
      obtain rfl : given = fatal := Except.error.inj route
      exact .itself given
  | recoverable cause =>
      obtain ⟨ident, content⟩ := cause
      cases content with
      | fatal given =>
          obtain rfl : given = fatal := Except.error.inj route
          exact .erased ident given
      | _ => simp [HookError.route] at route

lemma HookError.Holds.severity {failure : HookError} {fatal : Fatal}
    (holds : failure.Holds fatal) : failure.severity = .fatal := by
  cases holds <;> rfl

/-- Something failed for good: a hook, or the consumer. -/
def Event.isGrave : Event ν α → Bool
  | .hook run => run.failure.any (·.severity == .fatal)
  | .failed _ => true
  | _ => false

lemma Event.isGrave_eq_false {event : Event ν α} (own : event.own = true)
    (idle : event.hookRun? = none) : event.isGrave = false := by
  cases event <;> first | rfl | simp [Event.own, Event.hookRun?] at own idle

def Untroubled (trace : List (Moment ν α)) : Prop :=
  ∀ moment ∈ trace, moment.event.isGrave = false

lemma Untroubled.append {first second : List (Moment ν α)} (hfirst : Untroubled first)
    (hsecond : Untroubled second) : Untroubled (first ++ second) :=
  List.forall_mem_append.mpr ⟨hfirst, hsecond⟩

lemma Untroubled.beneath {trace : List (Moment ν α)} (h : Untroubled trace) (above : Standing) :
    Untroubled (trace.map (·.beneath above)) :=
  List.forall_mem_map.mpr h

/-- **How a trace ends** when a fatal error escapes from layers with the given names: the event that
the error comes from, and after it at most the warning of the layer that this happened in. -/
inductive Parting (names : List String) (fatal : Fatal) : List (Moment ν α) → Prop where
  /-- A hook failed, and the failure is the error or has it for a cause. -/
  | hook (layer : ℕ) {name : String} (named : names[layer]? = some name)
      (running ended : List Standing) (occasion : Occasion α) {failure : HookError}
      (holds : failure.Holds fatal) (note : ν) {notice : Notice}
      (tells : notice = .fatalEscaping occasion.kind fatal) (warns : notice.level = .warn) :
      Parting names fatal
        [{ layer, standings := running,
            event := .hook { occasion, failure := some failure, note } },
          { layer, standings := ended, event := .notice name notice }]
  /-- The consumer, which comes after the last layer, answered with the error. -/
  | consumer (standings : List Standing) :
      Parting names fatal [{ layer := names.length, standings, event := .failed fatal }]

lemma Parting.beneath {names : List String} {fatal : Fatal} {last : List (Moment ν α)}
    (parting : Parting names fatal last) (name : String) (above : Standing) :
    Parting (name :: names) fatal (last.map (·.beneath above)) := by
  cases parting with
  | hook layer named running ended occasion holds note tells warns =>
      exact .hook (layer + 1) named (above :: running) (above :: ended) occasion holds note tells
        warns
  | consumer standings => exact .consumer (above :: standings)

lemma Parting.exists_grave {names : List String} {fatal : Fatal} {last : List (Moment ν α)}
    (parting : Parting names fatal last) : ∃ moment ∈ last, moment.event.isGrave = true := by
  cases parting with
  | hook layer named running ended occasion holds note tells warns =>
      exact ⟨_, List.mem_cons_self, by simp [Event.isGrave, holds.severity]⟩
  | consumer standings => exact ⟨_, List.mem_cons_self, rfl⟩

/-- What escaped, if anything did, is accounted for by the trace. -/
inductive Accounted (names : List String) : List (Moment ν α) → Option Fatal → Prop where
  | calm {trace : List (Moment ν α)} (untroubled : Untroubled trace) : Accounted names trace none
  | parting {before last : List (Moment ν α)} {fatal : Fatal} (untroubled : Untroubled before)
      (parting : Parting names fatal last) : Accounted names (before ++ last) (some fatal)

namespace Accounted

variable {names : List String} {trace : List (Moment ν α)} {escaped : Option Fatal}

lemma untroubled (account : Accounted names trace none) : Untroubled trace := by
  cases account with
  | calm untroubled => exact untroubled

lemma precededBy (account : Accounted names trace escaped) {first : List (Moment ν α)}
    (hfirst : Untroubled first) : Accounted names (first ++ trace) escaped := by
  cases account with
  | calm untroubled => exact .calm (hfirst.append untroubled)
  | parting untroubled parting =>
      rw [← List.append_assoc]
      exact .parting (hfirst.append untroubled) parting

lemma beneath (account : Accounted names trace escaped) (name : String) (above : Standing) :
    Accounted (name :: names) (trace.map (·.beneath above)) escaped := by
  cases account with
  | calm untroubled => exact .calm (untroubled.beneath above)
  | parting untroubled parting =>
      rw [List.map_append]
      exact .parting (untroubled.beneath above) (parting.beneath name above)

lemma exists_grave_iff (account : Accounted names trace escaped) :
    (∃ moment ∈ trace, moment.event.isGrave = true) ↔ ∃ fatal, escaped = some fatal := by
  cases account with
  | calm untroubled =>
      refine iff_of_false ?_ (by simp)
      rintro ⟨moment, hmem, hgrave⟩
      rw [untroubled moment hmem] at hgrave
      exact Bool.false_ne_true hgrave
  | @parting before last fatal untroubled parting =>
      obtain ⟨moment, hmem, hgrave⟩ := parting.exists_grave
      exact iff_of_true ⟨moment, List.mem_append_right before hmem, hgrave⟩ ⟨fatal, rfl⟩

end Accounted

namespace Outcome

variable {τ : Type} {names : List String}

lemma accounted_idle (state : τ) (env : ω) :
    Accounted names (idle state env : Outcome ω ν α τ).trace
      (idle state env : Outcome ω ν α τ).escaped :=
  .calm (List.forall_mem_nil _)

lemma accounted_andThen {first : Outcome ω ν α τ}
    (hfirst : Accounted names first.trace first.escaped)
    {rest : τ → ω → Outcome ω ν α τ}
    (hrest : ∀ state env, Accounted names (rest state env).trace (rest state env).escaped) :
    Accounted names (first.andThen rest).trace (first.andThen rest).escaped := by
  cases hescaped : first.escaped with
  | some fatal =>
      rw [andThen_of_escaped hescaped]
      exact hfirst
  | none =>
      rw [andThen_of_not_escaped hescaped]
      rw [hescaped] at hfirst
      exact (hrest first.state first.env).precededBy hfirst.untroubled

end Outcome

namespace Subscriber

/-- Whatever is sent to the subscriber, whose layers have these names, what escapes is accounted
for. -/
def Accountable (S : Subscriber ω ν α) (names : List String) : Prop :=
  ∀ signal state env,
    Accounted names (S.receive signal state env).trace (S.receive signal state env).escaped

lemma Accountable.receiveAll {S : Subscriber ω ν α} {names : List String}
    (accountable : S.Accountable names) (signals : List (Signal α)) (state : S.State) (env : ω) :
    Accounted names (S.receiveAll signals state env).trace
      (S.receiveAll signals state env).escaped := by
  induction signals generalizing state env with
  | nil => exact Outcome.accounted_idle state env
  | cons signal signals ih => exact Outcome.accounted_andThen (accountable signal state env) ih

end Subscriber

lemma Consumer.accountable (C : Consumer α) : (C.subscriber : Subscriber ω ν α).Accountable [] := by
  rintro signal ⟨held, own⟩ env
  rw [C.receive_eq]
  simp only [Reaction.events, ← List.cons_append, List.map_append]
  have hcalls : ∀ event ∈ ((holding signal held).map (·.called (C.react signal own).calls)).getD [],
      (event : Event ν α).isGrave = false := by
    cases holding signal held with
    | none => exact List.forall_mem_nil _
    | some subscription =>
        intro event h
        obtain ⟨channel, call, rfl⟩ := eq_called_of_mem h
        rfl
  have hbefore : Untroubled ((.received signal
      :: ((holding signal held).map (·.called (C.react signal own).calls)).getD []).map fun event =>
        ({ layer := 0, standings := [], event } : Moment ν α)) :=
    List.forall_mem_map.mpr (List.forall_mem_cons.mpr ⟨rfl, hcalls⟩)
  cases (C.react signal own).fatal with
  | none =>
      simp only [Option.toList_none, List.map_nil, List.append_nil]
      exact .calm hbefore
  | some fatal => exact .parting hbefore (.consumer [])

namespace Layer

lemma untroubled_moments {below : List Standing} {shown : List (Standing × Event ν α)}
    (h : ∀ each ∈ shown, each.2.isGrave = false) : Untroubled (moments below shown) :=
  List.forall_mem_map.mpr h

lemma accounted_conduct {hooks : Hooks ω ν α σ} {config : Config} {session session' : Session σ}
    {signal : Signal α} {events : List (Standing × Event ν α)} {exit : Exit α}
    (conduct : Conduct hooks config session signal events session' exit) (names : List String)
    (below : List Standing) :
    Accounted (config.name :: names)
      (moments below ((session.standing, .received signal) :: events)) exit.fatal? := by
  cases conduct with
  | refused undue =>
      refine .calm (untroubled_moments (List.forall_mem_cons.mpr ⟨rfl, ?_⟩))
      refine List.forall_mem_map.mpr fun event h => ?_
      obtain ⟨own, idle⟩ := Session.own_of_mem_refusal config session.phase signal event h
      exact Event.isGrave_eq_false own idle
  | passed due note there state =>
      refine .calm (untroubled_moments (List.forall_mem_cons.mpr ⟨rfl, ?_⟩))
      exact List.forall_mem_map.mpr (List.forall_mem_map.mpr fun note _ => rfl)
  | @replaced parent due note failure error fails route state =>
      -- What is turned into an error of the stream failed recoverably, whatever its cause.
      have hmild : (failure.severity == .fatal) = false := by
        rw [HookError.severity_of_route route]
        rfl
      refine .calm (untroubled_moments (List.forall_mem_cons.mpr ⟨rfl, ?_⟩))
      rw [List.forall_mem_append]
      refine ⟨List.forall_mem_singleton.mpr hmild, List.forall_mem_map.mpr ?_⟩
      refine List.forall_mem_cons.mpr ⟨rfl, fun event h => ?_⟩
      obtain ⟨channel, call, rfl⟩ := eq_called_of_mem_withdrawal h
      rfl
  | @escaped parent due note failure fatal fails route state =>
      have parting : Parting (config.name :: names) fatal
          (moments below (Session.under (session.watching parent)
              [.hook (signal.run (some failure) note)]
            ++ Session.under (Session.endedStanding parent)
              [.notice config.name (.fatalEscaping signal.kind fatal)])) :=
        .hook 0 rfl _ _ signal.occasion (HookError.holds_of_route route) note
          (by rw [signal.kind_occasion]) rfl
      exact .parting (List.forall_mem_singleton.mpr rfl) parting

/-- **A layer accounts for what escapes from it**: the error comes from its own hook, and then
nothing was passed on, or it comes from below. -/
lemma accountable_onto (layer : Layer ω ν α) {actual : Subscriber ω ν α} {names : List String}
    (accountable : actual.Accountable names) :
    (layer.onto actual).Accountable (layer.config.name :: names) := by
  rintro signal ⟨session, below⟩ env
  have own := accounted_conduct (layer.conduct session signal env) names (actual.standings below)
  rw [receive_onto]
  cases hexit : (layer.turn session signal env).exit with
  | escape fatal =>
      rw [passedOn_of_signals_eq_nil (by rw [hexit]; rfl)]
      rw [hexit] at own
      simpa [Outcome.idle, Exit.fatal?, ownMoments] using own
  | forward signals =>
      rw [hexit] at own
      have passed := accountable.receiveAll (layer.turn session signal env).exit.signals below
        (layer.turn session signal env).env
      exact (passed.beneath layer.config.name _).precededBy own.untroubled

end Layer

namespace Source

variable {S : Subscriber ω ν α} {names : List String}

/-- A source that goes on although a fatal error escaped. -/
def isTolerant : Source α → Bool
  | .cued _ tolerant => tolerant
  | _ => false

lemma accounted_deliver (accountable : S.Accountable names) (items : List α) (demand : Demand)
    (state : S.State) (env : ω) :
    Accounted names (deliver S items demand state env).trace
      (deliver S items demand state env).escaped := by
  induction items generalizing demand state env with
  | nil =>
      rw [deliver]
      split
      · exact Outcome.accounted_idle state env
      · exact accountable .complete state env
  | cons item items ih =>
      rw [deliver]
      split
      · exact Outcome.accounted_idle state env
      · exact Outcome.accounted_andThen (accountable (.next item) state env) (ih _)

/-- A source that is not tolerant adds nothing to the account, and goes on after no escape. -/
lemma accounted_drive (accountable : S.Accountable names) {source : Source α}
    (strict : source.isTolerant = false) (env : ω) :
    Accounted names (source.drive S env).trace (source.drive S env).escaped := by
  cases source with
  | just items =>
      exact Outcome.accounted_andThen (accountable opening S.init env)
        (accounted_deliver accountable items _)
  | empty => exact accountable.receiveAll _ S.init env
  | never => exact accountable.receiveAll _ S.init env
  | failing error => exact accountable.receiveAll _ S.init env
  | cued signals tolerant =>
      obtain rfl : tolerant = false := strict
      exact accountable.receiveAll signals S.init env

end Source

namespace Publisher

/-- The names of the operators, the one next to the source in front. -/
def names (P : Publisher ω ν α) : List String := P.layers.map (·.config.name)

lemma accounted_subscribe {P : Publisher ω ν α} (strict : P.root.isTolerant = false)
    {S : Subscriber ω ν α} {names : List String} (accountable : S.Accountable names) (env : ω) :
    Accounted (P.names ++ names) (P.subscribe S env).trace (P.subscribe S env).escaped := by
  induction P generalizing S names with
  | source source => exact Source.accounted_drive accountable strict env
  | peek base layer ih =>
      have account := ih strict (layer.accountable_onto accountable)
      simpa [Publisher.names, layers, subscribe, Outcome.mapState] using account

/-- **Fatal errors escape, and they are what was thrown.**  A fatal error escapes from subscribing
exactly when a hook of some layer failed for good or the consumer answered with a fatal error.  That
happened only once then, what escapes is the error that came up there, and nothing happens after it
but the warning of the layer whose hook it was. -/
theorem escaped_iff_exists_grave (P : Publisher ω ν α) (strict : P.root.isTolerant = false)
    (C : Consumer α) (env : ω) :
    let outcome := P.subscribe C.subscriber env
    ((∃ fatal, outcome.escaped = some fatal)
        ↔ ∃ moment ∈ outcome.trace, moment.event.isGrave = true)
      ∧ ∀ fatal, outcome.escaped = some fatal →
          ∃ before last, outcome.trace = before ++ last
            ∧ (∀ moment ∈ before, moment.event.isGrave = false) ∧ Parting P.names fatal last := by
  intro outcome
  have account : Accounted P.names outcome.trace outcome.escaped := by
    simpa using accounted_subscribe strict C.accountable env
  refine ⟨account.exists_grave_iff.symm, fun fatal hescaped => ?_⟩
  rw [hescaped] at account
  generalize outcome.trace = trace at account ⊢
  cases account with
  | @parting before last fatal untroubled parting => exact ⟨before, last, rfl, untroubled, parting⟩

/-- The hook of the second layer fails over the first item, with a cause that is a fatal error
already.  It is this error that escapes. -/
theorem escaped_from_balking :
    let fatal : Fatal := .mk (.mk 0 (.message "stop"))
    let P : Publisher Unit Unit ℕ :=
      .peek (.peek (.source (.just [1, 2])) .plain) (.balking () (.mk 1 (.fatal fatal)))
    let outcome := P.subscribe (Consumer.asking 5).subscriber ()
    P.root.isTolerant = false
      ∧ outcome.escaped = some fatal
      ∧ ((∃ fatal, outcome.escaped = some fatal)
          ↔ ∃ moment ∈ outcome.trace, moment.event.isGrave = true)
      ∧ ∃ before last, outcome.trace = before ++ last
          ∧ (∀ moment ∈ before, moment.event.isGrave = false) ∧ Parting P.names fatal last := by
  intro fatal P outcome
  have escape := escaped_iff_exists_grave P rfl (Consumer.asking 5) ()
  exact ⟨rfl, rfl, escape.1, escape.2 fatal rfl⟩

end Publisher

end SignalPeek
