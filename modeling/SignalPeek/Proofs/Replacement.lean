import Mathlib.Data.List.Infix
import Mathlib.Tactic.Common
import SignalPeek.Fault.Companion

/-!
# Errors that replace each other

What becomes of the causes when one error takes the place of another and keeps it as a companion.
Causes are the same by identity, so a chain is looked at as a list of identities here
(`StreamError.idents`).

**One replacement.**  Attaching an error puts its chain behind the other one as a whole, or not at
all if its head is there already (`causes_withSuppressed`).  In the second case it is hidden, and
the rest of its chain with it.

**Many replacements.**  `replaced` lets errors take each other's place in turn.  An identity
survives all of this exactly when some error carried it and, wherever an error hid the one before
it, that error or a later one carried it (`mem_idents_replaced`).
-/

namespace SignalPeek.StreamError

/-- The identities of the causes along the chain. -/
def idents (e : StreamError) : List Ident := e.causes.map Cause.ident

lemma cause_ident_mem_idents (e : StreamError) : e.cause.ident ∈ e.idents := by
  obtain ⟨rest, hrest⟩ := e.causes_eq_cons
  simp [idents, hrest]

/-- **A chain is attached as a whole or not at all**, and its head alone decides. -/
lemma causes_withSuppressed (e other : StreamError) :
    (e.withSuppressed other).causes =
      if other.cause.ident ∈ e.idents then e.causes else e.causes ++ other.causes := by
  match e with
  | .lone cause =>
      by_cases h : cause.Same other.cause
      · rw [withSuppressed, if_pos h, if_pos]
        exact List.mem_singleton.mpr h.symm
      · rw [withSuppressed, if_neg h, if_neg]
        · rfl
        · exact fun hmem => h (List.mem_singleton.mp hmem).symm
  | .paired cause companion =>
      have ih := causes_withSuppressed companion other
      by_cases h : cause.Same other.cause
      · rw [withSuppressed, if_pos h, if_pos]
        exact List.mem_cons.mpr (Or.inl h.symm)
      · have hne : other.cause.ident ≠ cause.ident := fun heq => h heq.symm
        rw [withSuppressed, if_neg h]
        change cause :: (companion.withSuppressed other).causes
          = if other.cause.ident ∈ cause.ident :: companion.idents
            then cause :: companion.causes
            else cause :: companion.causes ++ other.causes
        simp only [ih, List.mem_cons, hne, false_or]
        split <;> rfl

lemma idents_withSuppressed (e other : StreamError) :
    (e.withSuppressed other).idents =
      if other.cause.ident ∈ e.idents then e.idents else e.idents ++ other.idents := by
  rw [idents, causes_withSuppressed]
  split
  · rfl
  · exact List.map_append

/-- An error is known by the causes along its chain. -/
lemma causes_injective : Function.Injective causes
  | .lone _, .lone _, h => by rw [List.cons.inj h |>.1]
  | .lone _, .paired _ companion, h => by
      obtain ⟨rest, hrest⟩ := companion.causes_eq_cons
      exact nomatch hrest.symm.trans (List.cons.inj h).2.symm
  | .paired _ companion, .lone _, h => by
      obtain ⟨rest, hrest⟩ := companion.causes_eq_cons
      exact nomatch hrest.symm.trans (List.cons.inj h).2
  | .paired _ _, .paired _ _, h => by
      obtain ⟨hcause, hcompanion⟩ := List.cons.inj h
      rw [hcause, causes_injective hcompanion]

lemma withSuppressed_of_mem {e other : StreamError} (h : other.cause.ident ∈ e.idents) :
    e.withSuppressed other = e :=
  causes_injective (by rw [causes_withSuppressed, if_pos h])

/-- **What is lost in one replacement.**  What the first error carries stays.  What the second one
carries stays unless the first has its head already. -/
lemma mem_idents_withSuppressed {ident : Ident} {e other : StreamError} :
    ident ∈ (e.withSuppressed other).idents
      ↔ ident ∈ e.idents ∨ ident ∈ other.idents ∧ other.cause.ident ∉ e.idents := by
  rw [idents_withSuppressed]
  split
  · rename_i hhead
    simp [hhead]
  · rename_i hhead
    simp [hhead]

/-- Of two errors, the head of the second is in the chain when it was attached to the first. -/
lemma head_mem_withSuppressed (e other : StreamError) :
    other.cause.ident ∈ (e.withSuppressed other).idents := by
  rw [mem_idents_withSuppressed]
  by_cases h : other.cause.ident ∈ e.idents
  · exact Or.inl h
  · exact Or.inr ⟨other.cause_ident_mem_idents, h⟩

/-- The error that is left when the given errors have taken the place of the first one in turn. -/
def replaced (e : StreamError) (faults : List StreamError) : StreamError :=
  faults.foldl (fun given fault => fault.withSuppressed given) e

@[simp] lemma replaced_append (e : StreamError) (first second : List StreamError) :
    e.replaced (first ++ second) = (e.replaced first).replaced second :=
  List.foldl_append

/-- Wherever an error hides the one before it, since it has the head of that one in its chain, the
identity is carried by it or by an error after it. -/
def Kept (ident : Ident) (errors : List StreamError) : Prop :=
  ∀ given fault later, given :: fault :: later <:+ errors → given.cause.ident ∈ fault.idents →
    ∃ carrier ∈ fault :: later, ident ∈ carrier.idents

lemma kept_singleton (ident : Ident) (e : StreamError) : Kept ident [e] := by
  intro given fault later h _
  exact absurd h.length_le (by simp)

lemma kept_cons_cons {ident : Ident} {given fault : StreamError} {later : List StreamError} :
    Kept ident (given :: fault :: later)
      ↔ (given.cause.ident ∈ fault.idents → ∃ carrier ∈ fault :: later, ident ∈ carrier.idents)
        ∧ Kept ident (fault :: later) := by
  constructor
  · intro kept
    exact ⟨kept given fault later (List.suffix_refl _),
      fun given' fault' later' h => kept given' fault' later' (h.trans (List.suffix_cons _ _))⟩
  · rintro ⟨hfirst, hlater⟩ given' fault' later' h
    rcases List.suffix_cons_iff.mp h with heq | hsuffix
    · obtain ⟨rfl, rfl, rfl⟩ : given' = given ∧ fault' = fault ∧ later' = later := by
        simpa using heq
      exact hfirst
    · exact hlater given' fault' later' hsuffix

lemma kept_congr_head (ident : Ident) {e e' : StreamError} (h : e.cause = e'.cause)
    (faults : List StreamError) : Kept ident (e :: faults) ↔ Kept ident (e' :: faults) := by
  cases faults with
  | nil => exact iff_of_true (kept_singleton ident e) (kept_singleton ident e')
  | cons fault faults => rw [kept_cons_cons, kept_cons_cons, h]

/-- **What survives.**  After any number of replacements an identity is still there exactly when an
error carried it and it was kept wherever an error was hidden. -/
theorem mem_idents_replaced {ident : Ident} (e : StreamError) (faults : List StreamError) :
    ident ∈ (e.replaced faults).idents
      ↔ (∃ carrier ∈ e :: faults, ident ∈ carrier.idents) ∧ Kept ident (e :: faults) := by
  induction faults generalizing e with
  | nil => simp [replaced, kept_singleton]
  | cons fault faults ih =>
      have hhead := kept_congr_head ident (cause_withSuppressed fault e) faults
      rw [show e.replaced (fault :: faults) = (fault.withSuppressed e).replaced faults from rfl,
        ih, hhead, kept_cons_cons]
      simp only [List.exists_mem_cons_iff, mem_idents_withSuppressed]
      by_cases hhides : e.cause.ident ∈ fault.idents
      · simp only [hhides, not_true_eq_false, and_false, or_false, true_implies]
        tauto
      · simp only [hhides, not_false_eq_true, and_true, false_implies, true_and]
        tauto

end SignalPeek.StreamError
