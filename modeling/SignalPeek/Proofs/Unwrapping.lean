import Mathlib.Tactic.Common
import SignalPeek.Fault.Wrapping
import SignalPeek.Proofs.Routing

/-!
# Taking the layers off a cause

A cause can be stored in one error value after another, in any order (`Cause.wrapAll`).  This file
says what is found when the layers are taken off again, and how the whole of it reads.

**Roots.**  Stream errors and fatal errors are looked through and hook failures are not.  So the
root lies under all layers, or it is the cause that the last layer of a hook made, whatever came
after that (`root_wrapAll_of_transparent`, `root_wrapAll_of_opaque`).

**Texts.**  A layer that marks a cause as fatal says so in front, and no other layer adds anything
(`text_wrapAll`).

Both are inductions over the layers.  A layer may leave the nesting as it was, since a cause that
is ready for delivery is not wrapped again, but neither the root nor the text can tell.
-/

namespace SignalPeek

/-! ## Layers -/

namespace Wrapping

/-- The layers that a root is not looked for under. -/
def isOpaque : Wrapping → Bool
  | .bubble | .propagate => true
  | .stream | .fatal => false

/-- The layers that say in the text that they are fatal. -/
def announces : Wrapping → Bool
  | .fatal | .bubble => true
  | .stream | .propagate => false

end Wrapping

/-! ## Roots -/

namespace Cause

/-- A cause with nothing to look through. -/
structure IsRoot (cause : Cause) : Prop where
  unstreamed : cause.content.kind ≠ .stream
  mild : cause.content.kind ≠ .fatal

lemma root_of_isRoot {cause : Cause} (h : cause.IsRoot) : cause.root = cause := by
  obtain ⟨ident, content⟩ := cause
  cases content with
  | stream e => exact absurd rfl h.unstreamed
  | fatal f => exact absurd rfl h.mild
  | _ => simp [root]

end Cause

mutual

lemma Cause.isRoot_root : ∀ cause : Cause, cause.root.IsRoot
  | .mk _ (.stream e) => by rw [Cause.root]; exact e.isRoot_root
  | .mk _ (.fatal f) => by rw [Cause.root]; exact f.isRoot_root
  | .mk _ (.message _) | .mk _ (.foreign _) | .mk _ (.hook _) | .mk _ (.build _) => by
      simp only [Cause.root]
      exact ⟨nofun, nofun⟩

lemma StreamError.isRoot_root : ∀ e : StreamError, e.root.IsRoot
  | .lone cause | .paired cause _ => by rw [StreamError.root]; exact cause.isRoot_root

lemma Fatal.isRoot_root : ∀ f : Fatal, f.root.IsRoot
  | .mk cause => by rw [Fatal.root]; exact cause.isRoot_root

end

namespace Cause

variable (cause : Cause) (next : Ident)

lemma root_root : cause.root.root = cause.root := root_of_isRoot cause.isRoot_root

/-! ## One layer -/

lemma root_mk_content (layer : Wrapping) :
    (mk next (layer.content cause)).root
      = if layer.isOpaque then mk next (layer.content cause) else cause.root := by
  cases layer with
  | stream => exact (root.eq_1 next cause.normalize).trans cause.root_normalize
  | fatal => exact (root.eq_2 next (.mk cause)).trans (Fatal.root.eq_1 cause)
  | bubble => exact root_of_isRoot ⟨nofun, nofun⟩
  | propagate => exact root_of_isRoot ⟨nofun, nofun⟩

lemma text_mk_content (layer : Wrapping) :
    (mk next (layer.content cause)).text
      = (if layer.announces then "fatal: " else "") ++ cause.text := by
  rw [text]
  cases layer with
  | stream => simp [Wrapping.content, Wrapping.announces, Content.text, cause.text_normalize]
  | fatal => simp [Wrapping.content, Wrapping.announces, Content.text, Fatal.text]
  | bubble =>
      simp [Wrapping.content, Wrapping.announces, Content.text, HookError.bubble, HookError.text,
        Fatal.text]
  | propagate =>
      simp [Wrapping.content, Wrapping.announces, Content.text, HookError.propagate, HookError.text]

/-! ## All layers -/

lemma wrapAll_append (layers later : List Wrapping) :
    cause.wrapAll next (layers ++ later)
      = (cause.wrapAll next layers).wrapAll (next + layers.length) later := by
  induction layers generalizing cause next with
  | nil => rfl
  | cons layer layers ih =>
      rw [List.cons_append, wrapAll, wrapAll, ih, List.length_cons, Nat.add_right_comm,
        Nat.add_assoc]

/-- The last layer makes the cause that is left. -/
lemma wrapAll_concat (layers : List Wrapping) (layer : Wrapping) :
    cause.wrapAll next (layers ++ [layer])
      = mk (next + layers.length) (layer.content (cause.wrapAll next layers)) := by
  rw [wrapAll_append]
  rfl

/-- Layers of stream errors and fatal errors only are looked through to the root. -/
lemma root_wrapAll_of_transparent {layers : List Wrapping}
    (transparent : ∀ layer ∈ layers, layer.isOpaque = false) :
    (cause.wrapAll next layers).root = cause.root := by
  induction layers using List.reverseRecOn with
  | nil => rfl
  | append_singleton layers layer ih =>
      obtain ⟨hlayers, hlayer⟩ := List.forall_mem_append.mp transparent
      rw [wrapAll_concat, root_mk_content, List.forall_mem_singleton.mp hlayer]
      exact ih hlayers

/-- The root is what the last layer of a hook made. -/
lemma root_wrapAll_of_opaque (before : List Wrapping) {layer : Wrapping}
    (last : layer.isOpaque = true) {later : List Wrapping}
    (transparent : ∀ layer ∈ later, layer.isOpaque = false) :
    (cause.wrapAll next (before ++ layer :: later)).root
      = cause.wrapAll next (before ++ [layer]) := by
  rw [List.append_cons, wrapAll_append, root_wrapAll_of_transparent _ _ transparent,
    wrapAll_concat, root_mk_content, if_pos last]

/-- Each layer that announces itself puts its word in front once. -/
lemma text_wrapAll (layers : List Wrapping) :
    (cause.wrapAll next layers).text
      = String.join (List.replicate (layers.countP Wrapping.announces) "fatal: ")
        ++ cause.text := by
  induction layers using List.reverseRecOn with
  | nil => simp [wrapAll]
  | append_singleton layers layer ih =>
      rw [wrapAll_concat, text_mk_content, ih, List.countP_append, List.countP_singleton]
      cases layer.announces with
      | false => simp
      | true => simp [List.replicate_succ, String.join_cons, String.append_assoc]

/-- **What any layers leave of a cause.**  Its root is found again unless a hook failure stands
around it, and then the root is the cause that the last such layer made, which took an identity of
its own.  No root is a stream error or a fatal error, so taking the root twice is taking it once.
And the text is that of the cause, after one announcement for every layer that marks it as fatal. -/
theorem unwrapped_from_layers (layers : List Wrapping) :
    let wrapped := cause.wrapAll next layers
    ((∀ layer ∈ layers, layer.isOpaque = false) → wrapped.root = cause.root)
      ∧ (∀ before layer later, layers = before ++ layer :: later → layer.isOpaque = true →
          (∀ layer ∈ later, layer.isOpaque = false) →
            wrapped.root = cause.wrapAll next (before ++ [layer])
              ∧ wrapped.root.ident = next + before.length)
      ∧ wrapped.root.content.kind ≠ .stream ∧ wrapped.root.content.kind ≠ .fatal
      ∧ wrapped.root.root = wrapped.root
      ∧ wrapped.text = String.join (List.replicate (layers.countP Wrapping.announces) "fatal: ")
          ++ cause.text := by
  intro wrapped
  refine ⟨cause.root_wrapAll_of_transparent next, ?hooks, wrapped.isRoot_root.unstreamed,
    wrapped.isRoot_root.mild, wrapped.root_root, cause.text_wrapAll next layers⟩
  case hooks =>
    rintro before layer later rfl last transparent
    have hroot : wrapped.root = _ := cause.root_wrapAll_of_opaque next before last transparent
    refine ⟨hroot, ?_⟩
    rw [hroot, wrapAll_concat]
    rfl

/-- Five layers around a fatal error.  The last layer of a hook is the fourth, and two of the five
announce themselves in front of the fatal error. -/
theorem unwrapped_from_five :
    let cause : Cause := .mk 0 (.fatal (.mk (.mk 1 (.message "stop"))))
    let made : Cause := cause.wrapAll 2 [.stream, .stream, .bubble, .propagate]
    let wrapped : Cause := cause.wrapAll 2 [.stream, .stream, .bubble, .propagate, .fatal]
    let looked : Cause := cause.wrapAll 2 [.stream, .fatal]
    looked.root = .mk 1 (.message "stop")
      ∧ wrapped.root = made ∧ wrapped.root.ident = 5
      ∧ wrapped.root.content.kind ≠ .stream ∧ wrapped.root.content.kind ≠ .fatal
      ∧ wrapped.root.root = wrapped.root
      ∧ wrapped.text = "fatal: fatal: fatal: stop" := by
  intro cause made wrapped looked
  obtain ⟨hlooked, -⟩ := cause.unwrapped_from_layers 2 [.stream, .fatal]
  obtain ⟨-, hhooks, unstreamed, mild, settled, text⟩ :=
    cause.unwrapped_from_layers 2 [.stream, .stream, .bubble, .propagate, .fatal]
  obtain ⟨hroot, hident⟩ :=
    hhooks [.stream, .stream, .bubble] .propagate [.fatal] rfl rfl (by decide)
  refine ⟨(hlooked (by decide)).trans ?_, hroot, hident, unstreamed, mild, settled,
    text.trans ?_⟩
  · simp [cause, root, Fatal.root]
  · simp [cause, List.countP_cons, Wrapping.announces, Cause.text, Content.text, Fatal.text,
      String.join_cons, List.replicate_succ]

end Cause

end SignalPeek
