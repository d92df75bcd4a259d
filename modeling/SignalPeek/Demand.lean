import SignalPeek.Signal

/-!
# Demand

What a subscription has been asked for.  Two counters of 64 bits stand side by side: everything that
was ever requested, and the part of it that has not been used up.  Both stop at the largest value
instead of starting over, and a request after cancellation counts for neither.
-/

namespace SignalPeek

/-- The sum of two amounts, or the largest amount where the sum is too large. -/
def saturatingAdd (a b : UInt64) : UInt64 :=
  .ofNat (min (a.toNat + b.toNat) (UInt64.size - 1))

/-- The exact value of a saturating sum. -/
theorem toNat_saturatingAdd (a b : UInt64) :
    (saturatingAdd a b).toNat = min (a.toNat + b.toNat) (UInt64.size - 1) := by
  have h : min (a.toNat + b.toNat) (UInt64.size - 1) < UInt64.size :=
    Nat.lt_of_le_of_lt (Nat.min_le_right _ _) (by decide)
  exact UInt64.toNat_ofNat_of_lt' h

/-- The demand on one subscription. -/
structure Demand where
  /-- All that was requested before cancellation. -/
  total : UInt64
  /-- What may still be delivered. -/
  outstanding : UInt64
  /-- Whether the subscription was cancelled. -/
  cancelled : Bool
  deriving DecidableEq, Repr

namespace Demand

/-- Nothing requested yet. -/
def start : Demand := { total := 0, outstanding := 0, cancelled := false }

/-- The demand after one call. -/
def after (demand : Demand) : Call → Demand
  | .request amount =>
    if demand.cancelled then demand
    else { demand with
      total := saturatingAdd demand.total amount
      outstanding := saturatingAdd demand.outstanding amount }
  | .cancel => { demand with cancelled := true }

/-- The demand after several calls, in order. -/
def afterAll (demand : Demand) (calls : List Call) : Demand :=
  calls.foldl after demand

/-- A request after cancellation counts for nothing. -/
theorem after_request_of_cancelled {demand : Demand} (h : demand.cancelled = true)
    (amount : UInt64) : demand.after (.request amount) = demand := by
  simp [after, h]

/-- Uses up one unit for a delivery.  There is none to use when the subscription is cancelled or
nothing is outstanding. -/
def take? (demand : Demand) : Option Demand :=
  if demand.cancelled || demand.outstanding == 0 then none
  else some { demand with outstanding := demand.outstanding - 1 }

end Demand

end SignalPeek
