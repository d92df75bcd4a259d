import SignalPeek.Fault.Basic

/-!
# Companions

An error that replaces another one keeps it as a companion.  Companions form a chain, and the view
of a stream error in this file is the list of the causes along it, the head first
(`StreamError.causes`).

`StreamError.withSuppressed` puts one error behind another.  It walks the chain and stops where the
newcomer's head cause is already present; only if it comes to the end is the newcomer attached, and
then with the chain of its own.  The comparison is by identity and looks at the newcomer's head
alone.
-/

namespace SignalPeek.StreamError

/-- The causes along the chain, from the head to the furthest companion. -/
def causes : StreamError → List Cause
  | .lone cause => [cause]
  | .paired cause companion => cause :: companion.causes

/-- The chain behind an error, one error for each companion, the nearest first. -/
def companions : StreamError → List StreamError
  | .lone _ => []
  | .paired _ companion => companion :: companion.companions

/-- The first error with the second one at the end of its chain, unless the head cause of the second
is already there. -/
def withSuppressed : StreamError → StreamError → StreamError
  | .lone cause, other => if cause.Same other.cause then .lone cause else .paired cause other
  | .paired cause companion, other =>
    if cause.Same other.cause then .paired cause companion
    else .paired cause (companion.withSuppressed other)

/-- Attaching a companion leaves the head as it is. -/
@[simp] theorem cause_withSuppressed (e other : StreamError) :
    (e.withSuppressed other).cause = e.cause := by
  cases e <;> simp only [withSuppressed] <;> split <;> rfl

/-- A chain starts with the head. -/
theorem causes_eq_cons (e : StreamError) : ∃ rest, e.causes = e.cause :: rest := by
  cases e with
  | lone cause => exact ⟨[], rfl⟩
  | paired cause companion => exact ⟨companion.causes, rfl⟩

end SignalPeek.StreamError
