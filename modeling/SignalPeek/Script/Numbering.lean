import SignalPeek.Fault.Basic

/-!
# Numbering causes

In a report a cause is known by a number: the causes are numbered from zero in the order in which
they are first met.  So two entries of a report show the same number exactly when they show the same
cause, and no identity of the running program is seen.
-/

namespace SignalPeek.Script

/-- The causes met so far, in the order of their numbers. -/
structure Numbering where
  met : List Ident

/-- No cause has been met. -/
def Numbering.start : Numbering := { met := [] }

/-- The number of a cause; one that has not been met takes the next number. -/
def Numbering.number (numbering : Numbering) (ident : Ident) : Nat × Numbering :=
  match numbering.met.idxOf? ident with
  | some number => (number, numbering)
  | none => (numbering.met.length, { met := numbering.met ++ [ident] })

end SignalPeek.Script
