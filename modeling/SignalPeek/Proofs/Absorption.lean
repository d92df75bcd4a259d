import Mathlib.Tactic.Common
import SignalPeek.Proofs.Concert
import SignalPeek.Proofs.HookOrder
import SignalPeek.Proofs.Reply
import SignalPeek.Proofs.Routing

/-!
# Fatal errors in wrappings

A hook may fail with a fatal error that stands in a stream error.  Then the failure does not look
fatal: only its own form and the value right in its cause decide, and a stream error in between
hides what is inside.

**Depth.**  `HookError.Carries` counts the stream errors around a fatal error in a failure.  At
depth zero the failure is fatal and the error escapes (`HookError.carries_zero_iff`).  At any other
depth the failure is recoverable, and the error that is delivered has one stream error less around
the fatal one (`HookError.carries_succ_iff`).  So at depth one the consumer is sent an error whose
very cause is a fatal error.

**What comes of a failure** in the call that the hook runs in is said for all four hooks at once
(`aftermath_of_failure`).
-/

namespace SignalPeek

variable {ω ν α σ τ : Type}

/-! ## Depth -/

/-- A cause holds a fatal error, with so many stream errors around it. -/
inductive Cause.Wraps : Cause → ℕ → Fatal → Prop where
  | bare (ident : Ident) (fatal : Fatal) : Wraps (.mk ident (.fatal fatal)) 0 fatal
  | stored (ident : Ident) (error : StreamError) {depth : ℕ} {fatal : Fatal}
      (wraps : error.cause.Wraps depth fatal) : Wraps (.mk ident (.stream error)) (depth + 1) fatal

/-- A failure carries a fatal error, with so many stream errors around it. -/
inductive HookError.Carries : HookError → ℕ → Fatal → Prop where
  | itself (fatal : Fatal) : Carries (.fatal fatal) 0 fatal
  | within {cause : Cause} {depth : ℕ} {fatal : Fatal} (wraps : cause.Wraps depth fatal) :
      Carries (.recoverable cause) depth fatal

namespace HookError

/-- **Only a fatal error without wrapping escapes.** -/
lemma carries_zero_iff {failure : HookError} {fatal : Fatal} :
    failure.Carries 0 fatal ↔ failure.route = .error fatal := by
  rw [route_eq_error_iff]
  constructor
  · intro carries
    cases carries with
    | itself => exact .itself fatal
    | within wraps =>
        cases wraps with
        | bare ident => exact .erased ident fatal
  · intro holds
    cases holds with
    | itself => exact .itself fatal
    | erased ident => exact .within (.bare ident fatal)

/-- **What is delivered has one wrapping less** than what the hook failed with. -/
lemma carries_succ_iff {failure : HookError} {error : StreamError}
    (route : failure.route = .ok error) {depth : ℕ} {fatal : Fatal} :
    failure.Carries (depth + 1) fatal ↔ error.cause.Wraps depth fatal := by
  obtain ⟨⟨ident, content⟩, rfl, rfl⟩ := recoverable_of_route route
  cases content with
  | fatal given => exact nomatch route
  | stream given =>
      constructor
      · intro carries
        cases carries with
        | within wraps =>
            cases wraps with
            | stored _ _ wraps => exact wraps
      · exact fun wraps => .within (.stored ident given wraps)
  | _ =>
      -- A cause of another sort is delivered as it is, and neither side has a fatal error.
      refine iff_of_false (fun carries => ?_) (fun wraps => nomatch wraps)
      cases carries with
      | within wraps => exact nomatch wraps

lemma severity_of_carries {failure : HookError} {depth : ℕ} {fatal : Fatal}
    (carries : failure.Carries depth fatal) : failure.severity = .fatal ↔ depth = 0 := by
  rw [severity_eq_fatal_iff]
  constructor
  · rintro ⟨other, route⟩
    cases depth with
    | zero => rfl
    | succ depth =>
        cases carries with
        | within wraps =>
            cases wraps
            exact nomatch route
  · rintro rfl
    exact ⟨fatal, carries_zero_iff.mp carries⟩

end HookError

/-! ## What comes of a failure -/

/-- **What comes of a hook that fails** in the call that it runs in, by the fatal errors that the
failure carries. -/
inductive Aftermath (failure : HookError) (outcome : Outcome ω ν α τ) : Prop where
  /-- A fatal error without wrapping is returned, and nothing is passed on. -/
  | escaped {fatal : Fatal} (carries : failure.Carries 0 fatal)
      (returned : outcome.escaped = some fatal) (unheard : signalsAt 1 outcome.trace = [])
  /-- Otherwise an error is passed on.  Its cause holds the fatal errors that the failure carries,
  each of them one wrapping less deep. -/
  | delivered (mild : failure.severity = .recoverable) {opening : List (Signal α)}
      (inert : opening <+: [.subscribe .inert]) {x : StreamError}
      (heard : signalsAt 1 outcome.trace = opening ++ [.error x])
      (unwrapped : ∀ depth fatal, x.cause.Wraps depth fatal ↔ failure.Carries (depth + 1) fatal)
  /-- A seed failed, and its error is never sent, since a fatal error came back over the inert
  subscription that goes before it. -/
  | forestalled (mild : failure.severity = .recoverable)
      (heard : signalsAt 1 outcome.trace = [.subscribe .inert]) {fatal : Fatal}
      (returned : outcome.escaped = some fatal)

/-- Whatever the signal was, the error that takes its place comes last and has the same head. -/
lemma Signal.substitutes_eq (signal : Signal α) (error : StreamError) :
    ∃ opening x, signal.substitutes error = opening ++ [.error x]
      ∧ opening <+: [.subscribe .inert] ∧ x.cause = error.cause := by
  cases signal with
  | subscribe parent => exact ⟨[.subscribe .inert], error, rfl, List.prefix_refl _, rfl⟩
  | error given =>
      exact ⟨[], error.withSuppressed given, rfl, List.nil_prefix,
        StreamError.cause_withSuppressed error given⟩
  | _ => exact ⟨[], error, rfl, List.nil_prefix, rfl⟩

/-- Where nothing escapes, all that is sent is heard. -/
lemma Subscriber.signalsAt_receiveAll_of_calm {S : Subscriber ω ν α} (hS : S.Attentive)
    {signals : List (Signal α)} {state : S.State} {env : ω}
    (calm : (S.receiveAll signals state env).escaped = none) :
    signalsAt 0 (S.receiveAll signals state env).trace = signals := by
  refine receiveAll_induction
    (motive := fun signals _ outcome => outcome.escaped = none →
      signalsAt 0 outcome.trace = signals) ?nil ?stop ?go signals state env calm
  case nil => exact fun _ _ _ => rfl
  case stop =>
    intro signal signals state env fatal escaped calm
    exact absurd (escaped.symm.trans calm) (Option.some_ne_none fatal)
  case go =>
    intro signal signals state env rest _ ih calm
    simp only [Outcome.precededBy, signalsAt_append, hS signal state env]
    exact congrArg (signal :: ·) (ih calm)

namespace Layer

variable {layer : Layer ω ν α} {actual : Subscriber ω ν α}

lemma aftermath_of_mem (hactual : actual.Attentive) {signal : Signal α}
    {state : (layer.onto actual).State} {env : ω} {run : HookRun ν α}
    (h : run ∈ hookRunsAt 0 ((layer.onto actual).receive signal state env).trace)
    {failure : HookError} (failed : run.failure = some failure) :
    Aftermath failure ((layer.onto actual).receive signal state env) := by
  obtain ⟨session, below⟩ := state
  rw [layer.hookRunsAt_zero_receive_onto actual signal session below env] at h
  have heard := heard_receive_onto hactual signal session below env
  obtain ⟨-, -, -, -, ⟨fatal, route, hexit⟩ | ⟨error, route, hexit, -⟩⟩ :=
    (layer.conduct session signal env).of_failure h failed
  · refine .escaped (HookError.carries_zero_iff.mpr route) ?_ ?_
    · rw [receive_onto, hexit]
      rfl
    · rw [hexit] at heard
      exact heard.nil
  · have mild := HookError.severity_of_route route
    obtain ⟨opening, x, hsubstitutes, hinert, hcause⟩ := signal.substitutes_eq error
    have unwrapped : ∀ depth fatal,
        x.cause.Wraps depth fatal ↔ failure.Carries (depth + 1) fatal := by
      intro depth fatal
      rw [hcause, HookError.carries_succ_iff route]
    have hsignals : (layer.turn session signal env).exit.signals = opening ++ [.error x] := by
      rw [hexit]
      exact hsubstitutes
    have hescaped : ((layer.onto actual).receive signal (session, below) env).escaped
        = (layer.passedOn actual signal session below env).escaped := by
      rw [receive_onto, hexit]
      rfl
    rw [hsignals] at heard
    cases hfatal : (layer.passedOn actual signal session below env).escaped with
    | none =>
        refine .delivered mild hinert ?_ unwrapped
        rw [signalsAt_succ_receive_onto, ← hsignals]
        exact Subscriber.signalsAt_receiveAll_of_calm hactual hfatal
    | some fatal =>
        -- The error may be missing only where an inert subscription goes before it.
        rcases List.prefix_cons_iff.mp hinert with rfl | ⟨rest, rfl, hrest⟩
        · exact .delivered mild hinert heard.singleton unwrapped
        · obtain rfl := List.prefix_nil.mp hrest
          rcases heard.pair with hcut | hall
          · exact .forestalled mild hcut (hescaped.trans hfatal)
          · exact .delivered mild hinert hall unwrapped

/-- **What wrappings do to a fatal error.**  A failure that carries a fatal error is fatal, and the
error is returned, exactly if no stream error stands around it.  In any run of a layer, a hook that
fails is followed in the same call by the return of such an error and nothing else, or by an error
for the subscriber below that carries what the failure carries, less one wrapping: so its cause is a
fatal error exactly if the failure had one in a single stream error. -/
theorem aftermath_of_failure :
    (∀ (failure : HookError) (depth : ℕ) (fatal : Fatal), failure.Carries depth fatal →
      (failure.severity = .fatal ↔ depth = 0) ∧ (failure.route = .error fatal ↔ depth = 0))
    ∧ ∀ (layer : Layer ω ν α) (layers : List (Layer ω ν α)) (C : Consumer α)
        (past : List (Stimulus α)) (stimulus : Stimulus α) (env : ω),
        let outcome := (layer.onto (stack layers C.subscriber)).after past stimulus env
        ∀ run ∈ hookRunsAt 0 outcome.trace, ∀ failure, run.failure = some failure →
          Aftermath failure outcome := by
  constructor
  · intro failure depth fatal carries
    have severity := HookError.severity_of_carries carries
    refine ⟨severity, fun route => ?_, ?_⟩
    · exact severity.mp (HookError.severity_eq_fatal_iff.mpr ⟨fatal, route⟩)
    · rintro rfl
      exact HookError.carries_zero_iff.mp carries
  · intro layer layers C past stimulus env outcome run h failure failed
    cases stimulus with
    | signal signal =>
        exact aftermath_of_mem (attentive_stack C.attentive layers) h failed
    | call call =>
        have hnone : hookRunsAt 0 outcome.trace = [] :=
          Subscriber.hookRunsAt_respond_call _ 0 call _ _
        rw [hnone] at h
        exact absurd h List.not_mem_nil

/-- A hook that gives back a stream error around a fatal one: its failure is followed by an error,
and that one has the fatal error for a cause. -/
theorem aftermath_of_wrapping :
    let fatal : Fatal := .mk (.mk 0 (.message "stop"))
    let wrapped : StreamError := .lone (.mk 1 (.fatal fatal))
    let failure : HookError := .ofStream 2 wrapped
    let run : HookRun Unit ℕ := { occasion := .next 1, failure := some failure, note := () }
    let actual : Subscriber Unit Unit ℕ := stack [plain] (Consumer.asking 0).subscriber
    let outcome := ((balking () failure.cause).onto actual).after
      [.signal (.subscribe (.direct 0))] (.signal (.next 1)) ()
    failure.Carries 1 fatal
      ∧ (failure.severity = .fatal ↔ 1 = 0) ∧ (failure.route = .error fatal ↔ 1 = 0)
      ∧ run ∈ hookRunsAt 0 outcome.trace ∧ run.failure = some failure
      ∧ Aftermath failure outcome := by
  intro fatal wrapped failure run actual outcome
  obtain ⟨hdepth, hcalls⟩ := aftermath_of_failure (ω := Unit) (ν := Unit) (α := ℕ)
  have carries : failure.Carries 1 fatal := .within (.stored 2 wrapped (.bare 1 fatal))
  obtain ⟨severity, route⟩ := hdepth failure 1 fatal carries
  have hmem : run ∈ hookRunsAt 0 outcome.trace := List.mem_singleton_self run
  exact ⟨carries, severity, route, hmem, rfl,
    hcalls _ [plain] (Consumer.asking 0) _ _ () run hmem failure rfl⟩

/-- **A fatal error that is delivered.**  The hook for items fails with a stream error around a
fatal error.  Nothing escapes, and the consumer is sent an error whose cause is the fatal one. -/
theorem fatal_delivered_in_wrapping :
    let fatal : Fatal := .mk (.mk 0 (.message "oom"))
    let wrapped : StreamError := .wrap 1 (.fatal fatal)
    let failure : HookError := .ofStream 2 wrapped
    let outcome := ((balking () failure.cause).onto (Consumer.asking 0).subscriber).after
      [.signal (.subscribe (.direct 0))] (.signal (.next 1)) ()
    failure.Carries 1 fatal
      ∧ failure.severity = .recoverable ∧ failure.route = .ok wrapped
      ∧ hookRunsAt 0 outcome.trace
        = [({ occasion := .next 1, failure := some failure, note := () } : HookRun Unit ℕ)]
      ∧ outcome.escaped = none
      ∧ signalsAt 1 outcome.trace = [.error wrapped]
      ∧ wrapped.cause.content = .fatal fatal :=
  ⟨.within (.stored 2 (.lone (.mk 1 (.fatal (.mk (.mk 0 (.message "oom")))))) (.bare 1 _)),
    rfl, rfl, rfl, rfl, rfl, rfl⟩

end Layer

end SignalPeek
