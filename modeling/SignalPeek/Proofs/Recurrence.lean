import Mathlib.Data.List.Chain
import Mathlib.Data.List.Nodup
import Mathlib.Tactic.Common
import SignalPeek.Proofs.DoubleFault
import SignalPeek.Proofs.Travel

/-!
# Causes that come again in a chain

Attaching an error looks for its head in the chain that it is to go behind, and not for the rest of
what it brings along.  So a cause can come twice in a chain, and this file says when.

**What can be made.**  The errors that can be made of lone ones by attaching are exactly those in
which no cause is followed by itself (`assembled_iff`).  An error is never its own nearest
companion, but it may come again behind another one.

**One attachment** repeats a cause if the two chains share one and the second is not hidden
(`nodup_withSuppressed_iff`).

**Many replacements.**  Where errors take each other's place in turn, the last of them prevail: the
last one that hides the one before it and those after it, or all of them if none does.  So it is
settled which prevail (`Prevail.unique`).  Their chains make up the chain that is left, and it
repeats a cause exactly if one of them does or two of them share one (`nodup_replaced_iff`).
-/

namespace SignalPeek

variable {ω ν α σ : Type}

namespace StreamError

/-- An error that is made of errors without companions by attaching one to another, any number of
times. -/
inductive Assembled : StreamError → Prop where
  | lone (cause : Cause) : Assembled (.lone cause)
  | suppressing {first second : StreamError} (hfirst : Assembled first)
      (hsecond : Assembled second) : Assembled (first.withSuppressed second)

lemma head?_idents (e : StreamError) : e.idents.head? = some e.cause.ident := by
  obtain ⟨rest, hrest⟩ := e.causes_eq_cons
  simp [idents, hrest]

/-- Nothing comes right behind itself, since the newcomer's head is not in the chain yet. -/
lemma isChain_withSuppressed {a b : StreamError} (ha : a.idents.IsChain (· ≠ ·))
    (hb : b.idents.IsChain (· ≠ ·)) : (a.withSuppressed b).idents.IsChain (· ≠ ·) := by
  rw [idents_withSuppressed]
  split
  · exact ha
  · rename_i hhead
    refine List.isChain_append.mpr ⟨ha, hb, fun x hx y hy heq => hhead ?_⟩
    rw [head?_idents] at hy
    obtain rfl : b.cause.ident = y := Option.some.inj hy
    exact heq ▸ List.mem_of_getLast? hx

lemma Assembled.isChain {e : StreamError} (assembled : e.Assembled) :
    e.idents.IsChain (· ≠ ·) := by
  induction assembled with
  | lone cause => exact List.isChain_singleton _
  | suppressing _ _ hfirst hsecond => exact isChain_withSuppressed hfirst hsecond

lemma assembled_of_isChain : ∀ e : StreamError, e.idents.IsChain (· ≠ ·) → e.Assembled
  | .lone cause, _ => .lone cause
  | .paired cause companion, h => by
      have hcompanion : companion.Assembled := assembled_of_isChain companion h.tail
      have hne : ¬ cause.Same companion.cause := by
        have hhead := head?_idents companion
        change (cause.ident :: companion.idents).IsChain (· ≠ ·) at h
        cases hidents : companion.idents with
        | nil => simp [hidents] at hhead
        | cons ident rest =>
            rw [hidents] at h hhead
            obtain rfl : ident = companion.cause.ident := Option.some.inj hhead
            exact (List.isChain_cons_cons.mp h).1
      have hpaired : (lone cause).withSuppressed companion = .paired cause companion := by
        rw [withSuppressed, if_neg hne]
      exact hpaired ▸ .suppressing (.lone cause) hcompanion

/-- **What can be made by attaching** are the errors in which no cause is followed by itself. -/
theorem assembled_iff (e : StreamError) : e.Assembled ↔ e.idents.IsChain (· ≠ ·) :=
  ⟨Assembled.isChain, assembled_of_isChain e⟩

/-- **When one attachment repeats a cause.** -/
lemma nodup_withSuppressed_iff (a b : StreamError) :
    (a.withSuppressed b).idents.Nodup
      ↔ a.idents.Nodup
        ∧ (b.cause.ident ∈ a.idents ∨ b.idents.Nodup ∧ a.idents.Disjoint b.idents) := by
  rw [idents_withSuppressed]
  split
  · rename_i hhead
    simp [hhead]
  · rename_i hhead
    simp [hhead, List.nodup_append']

/-! ## Errors that prevail -/

/-- An error hides the one whose place it takes if it has the head of that one in its chain. -/
def Hides (given fault : StreamError) : Prop := given.cause.ident ∈ fault.idents

/-- Of errors that take each other's place in turn, those prevail that come after the last hiding.
The last one always does. -/
structure Prevail (errors kept : List StreamError) : Prop where
  nonempty : kept ≠ []
  latest : ∃ gone, errors = gone ++ kept
    ∧ ∀ given ∈ gone.getLast?, ∀ fault ∈ kept.head?, given.Hides fault
  apart : kept.IsChain fun given fault => ¬ given.Hides fault

namespace Prevail

variable {errors kept : List StreamError} {fault : StreamError}

/-- An error that hides the last one is the only one left. -/
lemma restart (hides : ∀ given ∈ errors.getLast?, given.Hides fault) :
    Prevail (errors ++ [fault]) [fault] := by
  refine ⟨List.cons_ne_nil fault [], ⟨errors, rfl, ?_⟩, List.isChain_singleton fault⟩
  intro given hgiven other hother
  obtain rfl : fault = other := Option.some.inj hother
  exact hides given hgiven

/-- An error that does not hide the last one is left with those that were. -/
lemma concat (prevail : Prevail errors kept)
    (spares : ∀ given ∈ errors.getLast?, ¬ given.Hides fault) :
    Prevail (errors ++ [fault]) (kept ++ [fault]) := by
  obtain ⟨nonempty, ⟨gone, rfl, hides⟩, apart⟩ := prevail
  refine ⟨by simp, ⟨gone, List.append_assoc gone kept [fault], ?latest⟩, ?apart⟩
  case latest => rwa [List.head?_append_of_ne_nil kept nonempty]
  case apart =>
    refine List.isChain_append.mpr ⟨apart, List.isChain_singleton fault, ?_⟩
    intro given hgiven other hother
    obtain rfl : fault = other := Option.some.inj hother
    exact spares given (List.mem_getLast?_append_of_mem_getLast? hgiven)

/-- Those that prevail begin in one place only. -/
lemma eq_nil_of_append {between : List StreamError} (longer : Prevail errors (between ++ kept))
    (shorter : Prevail errors kept) : between = [] := by
  obtain ⟨-, ⟨gone, rfl, -⟩, apart⟩ := longer
  obtain ⟨nonempty, ⟨gone', hsplit, hides⟩, -⟩ := shorter
  obtain rfl : gone ++ between = gone' := by simpa [← List.append_assoc] using hsplit
  obtain ⟨fault, rest, rfl⟩ := List.exists_cons_of_ne_nil nonempty
  cases hlast : between.getLast? with
  | none => exact List.getLast?_eq_none_iff.mp hlast
  | some given =>
      -- The error before the first of the shorter list is hidden by it, and is not.
      have hidden : given.Hides fault :=
        hides given (List.mem_getLast?_append_of_mem_getLast? hlast) fault rfl
      exact absurd hidden ((List.isChain_append.mp apart).2.2 given hlast fault rfl)

/-- **Which errors prevail** is settled by the errors. -/
lemma unique {kept' : List StreamError} (prevail : Prevail errors kept)
    (prevail' : Prevail errors kept') : kept = kept' := by
  obtain ⟨gone, hsplit, -⟩ := prevail.latest
  obtain ⟨gone', hsplit', -⟩ := prevail'.latest
  rcases List.append_eq_append_iff.mp (hsplit.symm.trans hsplit') with
    ⟨between, -, rfl⟩ | ⟨between, -, rfl⟩
  · rw [prevail.eq_nil_of_append prevail', List.nil_append]
  · rw [prevail'.eq_nil_of_append prevail, List.nil_append]

end Prevail

lemma cause_replaced_concat (e : StreamError) (faults : List StreamError) (fault : StreamError) :
    (e.replaced (faults ++ [fault])).cause = fault.cause := by
  rw [replaced_append]
  exact cause_withSuppressed fault (e.replaced faults)

lemma idents_replaced_concat (e : StreamError) (faults : List StreamError) (fault : StreamError) :
    (e.replaced (faults ++ [fault])).idents
      = if (e.replaced faults).cause.ident ∈ fault.idents then fault.idents
        else fault.idents ++ (e.replaced faults).idents := by
  rw [replaced_append]
  exact idents_withSuppressed fault (e.replaced faults)

/-- The last error in a row of replacements is the one whose head is in front. -/
lemma cause_replaced (e : StreamError) (faults : List StreamError) :
    ∀ last ∈ (e :: faults).getLast?, (e.replaced faults).cause = last.cause := by
  induction faults using List.reverseRecOn with
  | nil =>
      intro last h
      obtain rfl : e = last := Option.some.inj h
      rfl
  | append_singleton faults fault _ =>
      intro last h
      rw [← List.cons_append, List.getLast?_concat] at h
      obtain rfl : fault = last := Option.some.inj h
      exact cause_replaced_concat e faults fault

/-- There are errors that prevail, and what is left of the replacements are their chains. -/
lemma exists_prevail (e : StreamError) (faults : List StreamError) :
    ∃ kept, Prevail (e :: faults) kept
      ∧ (e.replaced faults).idents = kept.reverse.flatMap idents := by
  induction faults using List.reverseRecOn with
  | nil =>
      have prevail : Prevail ([] ++ [e]) [e] := .restart fun given h => by simp at h
      exact ⟨[e], prevail, by simp [replaced]⟩
  | append_singleton faults fault ih =>
      obtain ⟨kept, prevail, hidents⟩ := ih
      have hhead := cause_replaced e faults
      rw [idents_replaced_concat, ← List.cons_append]
      by_cases hhides : (e.replaced faults).cause.ident ∈ fault.idents
      · rw [if_pos hhides]
        refine ⟨[fault], .restart fun given hgiven => ?_, by simp⟩
        rwa [Hides, ← hhead given hgiven]
      · rw [if_neg hhides]
        refine ⟨kept ++ [fault], prevail.concat fun given hgiven => ?_, by simp [hidents]⟩
        rwa [Hides, ← hhead given hgiven]

/-- **What is left of replacements** are the chains of the errors that prevail, the latest in front.
-/
lemma idents_replaced {e : StreamError} {faults kept : List StreamError}
    (prevail : Prevail (e :: faults) kept) :
    (e.replaced faults).idents = kept.reverse.flatMap idents := by
  obtain ⟨given, hgiven, hidents⟩ := exists_prevail e faults
  rw [prevail.unique hgiven, hidents]

/-- **When many replacements repeat a cause**: exactly if an error that prevails does so itself, or
two of them share a cause. -/
theorem nodup_replaced_iff {e : StreamError} {faults kept : List StreamError}
    (prevail : Prevail (e :: faults) kept) :
    (e.replaced faults).idents.Nodup
      ↔ (∀ error ∈ kept, error.idents.Nodup)
        ∧ kept.Pairwise fun given fault => given.idents.Disjoint fault.idents := by
  rw [idents_replaced prevail, List.nodup_flatMap, List.pairwise_reverse]
  simp only [List.mem_reverse, Function.onFun, List.disjoint_comm]

end StreamError

/-! ## What a consumer is given -/

/-- A signal that brings an assembled error if it brings one. -/
def Signal.IsAssembled (signal : Signal α) : Prop := ∀ e, signal = .error e → e.Assembled

lemma closed_isAssembled :
    Closed (Signal.IsAssembled : Signal α → Prop) StreamError.Assembled :=
  .errors fun fit given => .suppressing fit given

namespace Layer

/-- **When a cause comes again.**  The errors that are made of lone ones by attaching are those in
which no cause is followed by itself.  One attachment repeats a cause if the second error is not
hidden and shares one with the first.  If the errors that are sent to a stack and those that its
hooks fail with are so made, then the consumer is given no others; and of an error that is sent to
an active stack, the one that arrives repeats a cause exactly if, of the error and the faults of the
call, those that prevail do or share one; and it is settled which of them prevail. -/
theorem recurs_iff_shared :
    (∀ e : StreamError, e.Assembled ↔ e.idents.IsChain (· ≠ ·))
    ∧ (∀ a b : StreamError, (a.withSuppressed b).idents.Nodup
        ↔ a.idents.Nodup
          ∧ (b.cause.ident ∈ a.idents ∨ b.idents.Nodup ∧ a.idents.Disjoint b.idents))
    ∧ ∀ (layers : List (Layer ω ν α)) (C : Consumer α),
        let S := stack layers C.subscriber
        (∀ (stimuli : List (Stimulus α)) (env : ω),
          let run := S.history stimuli env
          (∀ e, .signal (.error e) ∈ stimuli → e.Assembled) →
            (∀ fault ∈ faults run.trace, fault.Assembled) →
              ∀ x, .error x ∈ signalsAt layers.length run.trace → x.idents.IsChain (· ≠ ·))
        ∧ ∀ (e : StreamError) (state : S.State) (env : ω),
            let outcome := S.receive (.error e) state env
            (∀ phase ∈ S.phases state, phase = .active) → outcome.escaped = none →
              ∃ x, signalsAt layers.length outcome.trace = [.error x]
                ∧ (∃! kept, StreamError.Prevail (e :: faults outcome.trace) kept)
                ∧ ∀ kept, StreamError.Prevail (e :: faults outcome.trace) kept →
                  (x.idents.Nodup ↔ (∀ error ∈ kept, error.idents.Nodup)
                    ∧ kept.Pairwise fun given fault => given.idents.Disjoint fault.idents) := by
  refine ⟨StreamError.assembled_iff, StreamError.nodup_withSuppressed_iff, ?_⟩
  intro layers C
  refine ⟨?_, ?_⟩
  · intro stimuli env run sent fit x hx
    have given : ∀ signal, Stimulus.signal signal ∈ stimuli → signal.IsAssembled := by
      rintro signal hmem e rfl
      exact sent e hmem
    have told : Told Signal.IsAssembled run.trace :=
      (carries_stack C closed_isAssembled layers).history given env fit
    exact (told.of_mem_signalsAt hx x rfl).isChain
  · intro e state env outcome active calm
    obtain ⟨kept, prevail, -⟩ := StreamError.exists_prevail e (faults outcome.trace)
    exact ⟨e.replaced (faults outcome.trace), delivers_stack C layers e state env active calm,
      ⟨kept, prevail, fun _ other => other.unique prevail⟩,
      fun _ other => StreamError.nodup_replaced_iff other⟩

/-- Two layers that fail over an error, each with a cause of its own: no cause comes twice. -/
theorem unshared_by_new_causes :
    let cause (ident : Ident) : Cause := .mk ident (.message "stop")
    let layers : List (Layer Unit Unit Unit) :=
      [grumbling () fun _ => .propagate (cause 1), grumbling () fun _ => .propagate (cause 2)]
    let S := stack layers (Consumer.asking 0).subscriber
    let opening : Stimulus Unit := .signal (.subscribe (.direct 0))
    let sent : StreamError := .lone (cause 0)
    let run := S.history [opening, .signal (.error sent)] ()
    let before := S.history [opening] ()
    let outcome := S.receive (.error sent) before.state before.env
    (∀ e, .signal (.error e) ∈ [opening, .signal (.error sent)] → e.Assembled)
      ∧ (∀ fault ∈ faults run.trace, fault.Assembled)
      ∧ (∃ x, .error x ∈ signalsAt 2 run.trace ∧ x.idents = [2, 1, 0] ∧ x.idents.IsChain (· ≠ ·))
      ∧ (∀ phase ∈ S.phases before.state, phase = .active) ∧ outcome.escaped = none
      ∧ ∃ x, signalsAt 2 outcome.trace = [.error x]
        ∧ (∃! kept, StreamError.Prevail (sent :: faults outcome.trace) kept)
        ∧ ∀ kept, StreamError.Prevail (sent :: faults outcome.trace) kept →
          (x.idents.Nodup ↔ (∀ error ∈ kept, error.idents.Nodup)
            ∧ kept.Pairwise fun given fault => given.idents.Disjoint fault.idents) := by
  intro cause layers S opening sent run before outcome
  obtain ⟨_, _, hstack⟩ := recurs_iff_shared (ω := Unit) (ν := Unit) (α := Unit)
  obtain ⟨hrun, hcall⟩ := hstack layers (Consumer.asking 0)
  have hsent : ∀ e, .signal (.error e) ∈ [opening, .signal (.error sent)] → e.Assembled := by
    intro e h
    obtain rfl : e = sent := by simpa [opening] using h
    exact .lone _
  have hfaults : faults run.trace = [.lone (cause 1), .lone (cause 2)] := rfl
  have hfit : ∀ fault ∈ faults run.trace, fault.Assembled := by
    rw [hfaults]
    exact List.forall_mem_cons.mpr ⟨.lone _, List.forall_mem_singleton.mpr (.lone _)⟩
  have hheard : .error (.paired (cause 2) (.paired (cause 1) (.lone (cause 0))))
      ∈ signalsAt 2 run.trace := List.mem_cons_of_mem _ List.mem_cons_self
  have active : ∀ phase ∈ S.phases before.state, phase = .active := by
    have hphases : S.phases before.state = [.active, .active] := rfl
    simp [hphases]
  exact ⟨hsent, hfit, ⟨_, hheard, rfl, hrun _ () hsent hfit _ hheard⟩, active, rfl,
    hcall sent before.state before.env active rfl⟩

/-- **A cause that comes again.**  The second of two layers fails with the cause of the error that
was sent, which the first has kept as a companion already. -/
theorem recurs_by_rethrow :
    let bar : Cause := .mk 0 (.message "bar")
    let test : Cause := .mk 1 (.message "test")
    let S : Subscriber Unit Unit Unit :=
      stack [grumbling () fun _ => .propagate test, grumbling () fun _ => .propagate bar]
        (Consumer.asking 0).subscriber
    let before := S.history [.signal (.subscribe (.direct 0))] ()
    let outcome := S.receive (.error (.lone bar)) before.state before.env
    let kept := (StreamError.lone test).withSuppressed (.lone bar)
    outcome.escaped = none
      ∧ faults outcome.trace = [.lone test, .lone bar]
      ∧ signalsAt 2 outcome.trace = [.error ((StreamError.lone bar).withSuppressed kept)]
      ∧ ((StreamError.lone bar).withSuppressed kept).idents = [0, 1, 0]
      ∧ ¬ ((StreamError.lone bar).withSuppressed kept).idents.Nodup :=
  ⟨rfl, rfl, rfl, rfl, by decide⟩

end Layer

end SignalPeek
