import Mathlib.Tactic.Common
import SignalPeek.Proofs.Travel
import SignalPeek.Proofs.Unwrapping

/-!
# The normal form of stream errors

A stream error could have a stream error for its cause, but no operation makes such an error.  So
wrapping an error again gives back the error, companions and all, and one step leads from an error
to the last reason behind it.

**What can be made** is said by five predicates, one for each form that an error value has, with one
constructor for each operation (`StreamError.Made` and its companions).  Values may be stored in
causes, taken out again and put into each other in any order.

**The invariant** has to look into everything that is stored: a cause that holds a stream error is
that error again when it is made ready for delivery, so that error must have been in normal form
all the time (`StreamError.Normal` and its companions).  Each operation keeps it, and so do the
layers of a stack (`Layer.normal_history`).
-/

namespace SignalPeek

variable {ω ν α : Type}

/-! ## The invariant -/

mutual

/-- No stream error within, at any depth, has a stream error for its cause. -/
inductive Cause.Normal : Cause → Prop where
  | mk (ident : Ident) {content : Content} (normal : content.Normal) :
      Cause.Normal (.mk ident content)

inductive Content.Normal : Content → Prop where
  | message (text : String) : Content.Normal (.message text)
  | foreign (value : Foreign) : Content.Normal (.foreign value)
  | stream {e : StreamError} (normal : e.Normal) : Content.Normal (.stream e)
  | fatal {f : Fatal} (normal : f.Normal) : Content.Normal (.fatal f)
  | hook {failure : HookError} (normal : failure.Normal) : Content.Normal (.hook failure)
  | build (error : BuildError) : Content.Normal (.build error)

inductive StreamError.Normal : StreamError → Prop where
  | lone {cause : Cause} (bare : cause.content.kind ≠ .stream) (normal : cause.Normal) :
      StreamError.Normal (.lone cause)
  | paired {cause : Cause} (bare : cause.content.kind ≠ .stream) (normal : cause.Normal)
      {companion : StreamError} (rest : companion.Normal) :
      StreamError.Normal (.paired cause companion)

inductive Fatal.Normal : Fatal → Prop where
  | mk {cause : Cause} (normal : cause.Normal) : Fatal.Normal (.mk cause)

inductive HookError.Normal : HookError → Prop where
  | fatal {f : Fatal} (normal : f.Normal) : HookError.Normal (.fatal f)
  | recoverable {cause : Cause} (normal : cause.Normal) : HookError.Normal (.recoverable cause)

end

lemma Cause.Normal.content {cause : Cause} (normal : cause.Normal) : cause.content.Normal := by
  cases normal with
  | mk ident normal => exact normal

namespace StreamError.Normal

variable {e other : StreamError}

lemma bare (normal : e.Normal) : e.cause.content.kind ≠ .stream := by
  cases normal with
  | lone bare _ => exact bare
  | paired bare _ _ => exact bare

lemma cause (normal : e.Normal) : e.cause.Normal := by
  cases normal with
  | lone _ normal => exact normal
  | paired _ normal _ => exact normal

lemma companion (normal : e.Normal) {x : StreamError} (h : e.companion? = some x) : x.Normal := by
  cases normal with
  | lone _ _ => exact nomatch h
  | paired _ _ rest =>
      obtain rfl := Option.some.inj h
      exact rest

lemma companions : ∀ {e : StreamError}, e.Normal → ∀ x ∈ e.companions, x.Normal
  | .lone _, _ => List.forall_mem_nil _
  | .paired _ _, .paired _ _ rest => List.forall_mem_cons.mpr ⟨rest, companions rest⟩

/-- The newcomer goes to the end of the chain, where it has a head of its own. -/
lemma withSuppressed : ∀ {e : StreamError}, e.Normal → other.Normal →
    (e.withSuppressed other).Normal
  | .lone cause, normal, later => by
      rw [StreamError.withSuppressed]
      split
      · exact normal
      · exact .paired normal.bare normal.cause later
  | .paired cause companion, normal, later => by
      rw [StreamError.withSuppressed]
      split
      · exact normal
      · exact .paired normal.bare normal.cause ((normal.companion rfl).withSuppressed later)

end StreamError.Normal

lemma Fatal.Normal.cause {f : Fatal} (normal : f.Normal) : f.cause.Normal := by
  cases normal with
  | mk normal => exact normal

lemma HookError.Normal.cause {failure : HookError} (normal : failure.Normal) :
    failure.cause.Normal := by
  cases normal with
  | fatal normal => exact normal.cause
  | recoverable normal => exact normal

/-- What a cause is made ready for delivery as was in normal form before, or has the cause. -/
lemma Cause.Normal.normalize {cause : Cause} (normal : cause.Normal) : cause.normalize.Normal := by
  cases normal with
  | mk ident normal =>
      cases normal with
      | stream normal => exact normal
      | message text => exact .lone (by rintro ⟨⟩) (.mk ident (.message text))
      | foreign value => exact .lone (by rintro ⟨⟩) (.mk ident (.foreign value))
      | fatal normal => exact .lone (by rintro ⟨⟩) (.mk ident (.fatal normal))
      | hook normal => exact .lone (by rintro ⟨⟩) (.mk ident (.hook normal))
      | build error => exact .lone (by rintro ⟨⟩) (.mk ident (.build error))

namespace HookError.Normal

variable {failure : HookError}

lemma delivered (normal : failure.Normal) {e : StreamError} (route : failure.route = .ok e) :
    e.Normal := by
  obtain ⟨cause, rfl, rfl⟩ := HookError.recoverable_of_route route
  exact normal.cause.normalize

lemma returned (normal : failure.Normal) {f : Fatal} (route : failure.route = .error f) :
    f.Normal := by
  cases HookError.holds_of_route route with
  | itself =>
      cases normal with
      | fatal normal => exact normal
  | erased ident =>
      cases normal.cause.content with
      | fatal normal => exact normal

end HookError.Normal

mutual

lemma Cause.Normal.root : ∀ {cause : Cause}, cause.Normal → cause.root.Normal
  | .mk _ (.stream _), .mk _ (.stream normal) => by rw [Cause.root]; exact normal.root
  | .mk _ (.fatal _), .mk _ (.fatal normal) => by rw [Cause.root]; exact normal.root
  | .mk _ (.message _), normal | .mk _ (.foreign _), normal | .mk _ (.hook _), normal
  | .mk _ (.build _), normal => by simpa only [Cause.root] using normal

lemma StreamError.Normal.root : ∀ {e : StreamError}, e.Normal → e.root.Normal
  | .lone _, .lone _ normal => by rw [StreamError.root]; exact normal.root
  | .paired _ _, .paired _ normal _ => by rw [StreamError.root]; exact normal.root

lemma Fatal.Normal.root : ∀ {f : Fatal}, f.Normal → f.root.Normal
  | .mk _, .mk normal => by rw [Fatal.root]; exact normal.root

end

/-! ## What can be made -/

mutual

/-- The causes that can be come by. -/
inductive Cause.Made : Cause → Prop where
  /-- An error value is stored in a cause of its own. -/
  | stored (ident : Ident) {content : Content} (made : content.Made) :
      Cause.Made (.mk ident content)
  | root {cause : Cause} (made : cause.Made) : Cause.Made cause.root
  | ofStream {e : StreamError} (made : e.Made) : Cause.Made e.cause
  | ofFatal {f : Fatal} (made : f.Made) : Cause.Made f.cause
  | ofHook {failure : HookError} (made : failure.Made) : Cause.Made failure.cause

/-- The values that can be stored in a cause. -/
inductive Content.Made : Content → Prop where
  | message (text : String) : Content.Made (.message text)
  | foreign (value : Foreign) : Content.Made (.foreign value)
  | stream {e : StreamError} (made : e.Made) : Content.Made (.stream e)
  | fatal {f : Fatal} (made : f.Made) : Content.Made (.fatal f)
  | hook {failure : HookError} (made : failure.Made) : Content.Made (.hook failure)
  | build (error : BuildError) : Content.Made (.build error)
  /-- The value that a cause holds can be looked at and stored again. -/
  | held {cause : Cause} (made : cause.Made) : Content.Made cause.content

/-- The stream errors that can be made. -/
inductive StreamError.Made : StreamError → Prop where
  | wrap (ident : Ident) {content : Content} (made : content.Made) :
      StreamError.Made (.wrap ident content)
  | ofText (ident : Ident) (text : String) : StreamError.Made (.ofText ident text)
  | normalize {cause : Cause} (made : cause.Made) : StreamError.Made cause.normalize
  | withSuppressed {e other : StreamError} (made : e.Made) (later : other.Made) :
      StreamError.Made (e.withSuppressed other)
  | companion {e x : StreamError} (made : e.Made) (behind : e.companion? = some x) :
      StreamError.Made x
  | routed {failure : HookError} (made : failure.Made) {e : StreamError}
      (route : failure.route = .ok e) : StreamError.Made e
  | held {e : StreamError} (made : (Content.stream e).Made) : StreamError.Made e

/-- The fatal errors that can be made. -/
inductive Fatal.Made : Fatal → Prop where
  | mk {cause : Cause} (made : cause.Made) : Fatal.Made (.mk cause)
  | routed {failure : HookError} (made : failure.Made) {f : Fatal}
      (route : failure.route = .error f) : Fatal.Made f
  | held {f : Fatal} (made : (Content.fatal f).Made) : Fatal.Made f

/-- The failures that can be made. -/
inductive HookError.Made : HookError → Prop where
  | bubble {cause : Cause} (made : cause.Made) : HookError.Made (.bubble cause)
  | propagate {cause : Cause} (made : cause.Made) : HookError.Made (.propagate cause)
  | ofStream (ident : Ident) {e : StreamError} (made : e.Made) :
      HookError.Made (.ofStream ident e)
  | ofFatal {f : Fatal} (made : f.Made) : HookError.Made (.fatal f)
  | held {failure : HookError} (made : (Content.hook failure).Made) :
      HookError.Made failure

end

/-! **All that can be made is in normal form**, by induction on how it was made. -/

mutual

lemma Cause.Made.normal {cause : Cause} : cause.Made → cause.Normal
  | .stored ident made => .mk ident made.normal
  | .root made => made.normal.root
  | .ofStream made => made.normal.cause
  | .ofFatal made => made.normal.cause
  | .ofHook made => made.normal.cause

lemma Content.Made.normal {content : Content} : content.Made → content.Normal
  | .message text => .message text
  | .foreign value => .foreign value
  | .stream made => .stream made.normal
  | .fatal made => .fatal made.normal
  | .hook made => .hook made.normal
  | .build error => .build error
  | .held made => made.normal.content

lemma StreamError.Made.normal {e : StreamError} : e.Made → e.Normal
  | .wrap ident made => (Cause.Normal.mk ident made.normal).normalize
  | .ofText ident text => (Cause.Normal.mk ident (.message text)).normalize
  | .normalize made => made.normal.normalize
  | .withSuppressed made later => made.normal.withSuppressed later.normal
  | .companion made behind => made.normal.companion behind
  | .routed made route => made.normal.delivered route
  | .held made => by
      cases made.normal with
      | stream normal => exact normal

lemma Fatal.Made.normal {f : Fatal} : f.Made → f.Normal
  | .mk made => .mk made.normal
  | .routed made route => made.normal.returned route
  | .held made => by
      cases made.normal with
      | fatal normal => exact normal

lemma HookError.Made.normal {failure : HookError} : failure.Made → failure.Normal
  | .bubble made => .fatal (.mk made.normal)
  | .propagate made => .recoverable made.normal
  | .ofStream ident made => .recoverable (.mk ident (.stream made.normal))
  | .ofFatal made => .fatal made.normal
  | .held made => by
      cases made.normal with
      | hook normal => exact normal

end

/-! ## What the normal form is good for -/

/-- A cause wrapped any number of times is ready for delivery as the same error. -/
lemma Cause.normalize_wrapAll_stream (cause : Cause) (next : Ident) (count : ℕ) :
    (cause.wrapAll next (List.replicate count .stream)).normalize = cause.normalize := by
  induction count generalizing cause next with
  | zero => rfl
  | succ count ih =>
      rw [List.replicate_succ, wrapAll, ih]
      rfl

/-- Of all values that a cause can hold, only a stream error names a reason. -/
lemma Cause.sources_eq_nil {cause : Cause} (bare : cause.content.kind ≠ .stream) :
    cause.sources = [] := by
  obtain ⟨ident, content⟩ := cause
  rw [Cause.sources]
  cases content with
  | stream _ => exact absurd rfl bare
  | _ => simp only [Content.sources]

namespace StreamError

lemma Normal.sources_eq {e : StreamError} (normal : e.Normal) : e.sources = [e.cause] := by
  cases normal with
  | lone bare _ => exact congrArg (_ :: ·) (Cause.sources_eq_nil bare)
  | paired bare _ _ => exact congrArg (_ :: ·) (Cause.sources_eq_nil bare)

/-- **Stream errors are in normal form**, however they were made.  Neither an error nor a companion
of it has a stream error for its cause.  Stored in a new cause and made ready again, an error is the
error that it was, with its whole chain; and a cause that is wrapped again and again is ready as the
error that it was at first.  One step leads to the last reason behind an error.  And at its root is
neither a stream error nor a fatal error. -/
theorem in_normal_form {e : StreamError} (made : e.Made) :
    (∀ x ∈ e :: e.companions, x.cause.content.kind ≠ .stream)
      ∧ (∀ ident, (Cause.mk ident (.stream e)).normalize = e)
      ∧ (∀ (cause : Cause) next count,
          (cause.wrapAll next (List.replicate count .stream)).normalize = cause.normalize)
      ∧ e.sources = [e.cause]
      ∧ e.isOf .stream = false ∧ e.isOf .fatal = false := by
  have normal := made.normal
  have rooted := e.isRoot_root
  refine ⟨?nodes, fun _ => rfl, Cause.normalize_wrapAll_stream, normal.sources_eq,
    beq_false_of_ne rooted.unstreamed, beq_false_of_ne rooted.mild⟩
  case nodes =>
    refine List.forall_mem_cons.mpr ⟨normal.bare, fun x h => ?_⟩
    exact (normal.companions x h).bare

/-- An error over another one that was wrapped twice and given back by a hook in between. -/
theorem in_normal_form_rewrapped :
    let stop : StreamError := .ofText 0 "stop"
    let failure : HookError := .ofStream 1 (.wrap 2 (.stream stop))
    let e := (StreamError.ofText 3 "over").withSuppressed stop
    failure.route = .ok stop
      ∧ e = .paired (.mk 3 (.message "over")) (.lone (.mk 0 (.message "stop")))
      ∧ (∀ x ∈ e :: e.companions, x.cause.content.kind ≠ .stream)
      ∧ e.sources = [e.cause]
      ∧ e.isOf .stream = false ∧ e.isOf .fatal = false := by
  intro stop failure e
  have failed : failure.Made := .ofStream 1 (.wrap 2 (.stream (.ofText 0 "stop")))
  have given : stop.Made := .routed failed rfl
  obtain ⟨nodes, _, _, sources, unstreamed, mild⟩ :=
    in_normal_form (.withSuppressed (.ofText 3 "over") given)
  exact ⟨rfl, rfl, nodes, sources, unstreamed, mild⟩

end StreamError

/-! ## In a stack -/

/-- **The normal form is not left in a stack.**  If the errors that are sent to it are in normal
form, and what its hooks fail with is, then all errors that are heard in it are. -/
theorem Layer.normal_history (layers : List (Layer ω ν α)) (C : Consumer α)
    (stimuli : List (Stimulus α)) (env : ω) :
    let run := (stack layers C.subscriber).history stimuli env
    (∀ e, .signal (.error e) ∈ stimuli → e.Normal) → (∀ fault ∈ faults run.trace, fault.Normal) →
      ∀ depth x, .error x ∈ signalsAt depth run.trace → x.Normal := by
  intro run sent fit depth x hx
  have given : ∀ signal : Signal α, .signal signal ∈ stimuli →
      ∀ e, signal = .error e → e.Normal := by
    rintro signal hmem e rfl
    exact sent e hmem
  have closed : Closed (fun signal : Signal α => ∀ e, signal = .error e → e.Normal) _ :=
    .errors .withSuppressed
  have told := (carries_stack C closed layers).history given env fit
  exact told.of_mem_signalsAt hx x rfl

end SignalPeek
