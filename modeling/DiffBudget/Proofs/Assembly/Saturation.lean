import DiffBudget.Proofs.Assembly.HardStop
import Mathlib.Algebra.Ring.Nat

/-!
# Totals that stop at the largest number

The account holds the exact total or the largest number, whichever is less, and every question adds
to it in the same way. A bound below the largest number cannot tell a sum that has stopped from the
exact one: both lie beyond it. So under a limit below the largest number the three questions are
answered as over the integers, whatever was charged before. Charges only add to the exact total,
and an answer that a larger total cannot take back is final.
-/
namespace DiffBudget

theorem sumOf_id (ns : List Nat) : sumOf id ns = ns.sum := by
  induction ns with
  | nil => rfl
  | cons n ns ih => rw [sumOf_cons, List.sum_cons, ih, id]

theorem saturatingAdd_min_le_iff {bound : Nat} (h : bound < maxNumber) (exact more : Nat) :
    saturatingAdd (min exact maxNumber) more ≤ bound ↔ exact + more ≤ bound := by
  unfold saturatingAdd
  omega

namespace Account

theorem chargeAll_append (a : Account) (charges further : List Nat) :
    (a.chargeAll charges).chargeAll further = a.chargeAll (charges ++ further) :=
  List.foldl_append.symm

/-- The account of an assembly answers like one that counts `exact` tokens without a largest
number and compares integers. -/
structure DecidesExactly (a : Account) (o : AssemblyOptions) (exact : Nat) : Prop where
  total : a.total = min exact maxNumber
  withinSoftReserve : a.withinSoftReserve = decide ((exact + o.softReserve : ℤ) < o.limit)
  admits : ∀ cost : Nat, a.admits cost = decide ((exact + cost : ℤ) ≤ o.limit - o.softReserve)
  pastHardFloor : a.pastHardFloor = decide ((exact : ℤ) > o.limit - o.hardReserve)

/-- No further charges bring back the soft reserve, make room for a cost that was refused, or lead
out of the hard reserve. -/
structure RefusesForGood (a : Account) : Prop where
  withinSoftReserve : a.withinSoftReserve = false →
    ∀ further, (a.chargeAll further).withinSoftReserve = false
  admits : ∀ cost, a.admits cost = false → ∀ further, (a.chargeAll further).admits cost = false
  pastHardFloor : a.pastHardFloor = true → ∀ further, (a.chargeAll further).pastHardFloor = true

variable {o : AssemblyOptions} {a : Account} {promptTokens exact : Nat}

theorem start_chargeAll (hprompt : promptTokens ≤ maxNumber) (charges : List Nat) :
    (start o promptTokens).chargeAll charges =
      ⟨o.limit, o.softReserve, o.hardReserve, min (promptTokens + charges.sum) maxNumber⟩ := by
  rw [chargeAll_eq hprompt, sumOf_id]
  rfl

theorem decidesExactly_stopped (hvalid : o.Valid) (hlimit : o.limit < maxNumber) (exact : Nat) :
    DecidesExactly ⟨o.limit, o.softReserve, o.hardReserve, min exact maxNumber⟩ o exact := by
  obtain ⟨hsoft, hhard⟩ := hvalid
  refine ⟨rfl, decide_eq_decide.mpr ?_, fun cost => decide_eq_decide.mpr ?_,
    decide_eq_decide.mpr ?_⟩
  · have hbound : o.limit - 1 < maxNumber := by omega
    have hbelow := saturatingAdd_min_le_iff hbound exact o.softReserve
    dsimp only
    omega
  · have hbound : o.limit - o.softReserve < maxNumber := by omega
    have hfits := saturatingAdd_min_le_iff hbound exact cost
    dsimp only
    omega
  · dsimp only
    omega

theorem refusesForGood_of_exact (h : ∀ further, DecidesExactly (a.chargeAll further) o
    (exact + further.sum)) : a.RefusesForGood := by
  have hnow : DecidesExactly a o exact := h []
  refine ⟨fun hsoft further => ?_, fun cost hcost further => ?_, fun hpast further => ?_⟩
  · rw [hnow.withinSoftReserve, decide_eq_false_iff_not] at hsoft
    rw [(h further).withinSoftReserve, decide_eq_false_iff_not]
    omega
  · rw [hnow.admits, decide_eq_false_iff_not] at hcost
    rw [(h further).admits, decide_eq_false_iff_not]
    omega
  · rw [hnow.pastHardFloor, decide_eq_true_eq] at hpast
    rw [(h further).pastHardFloor, decide_eq_true_eq]
    omega

/-- After any charges the account decides by the exact sum of the prompt and the charges, and what
it refuses then it refuses for good. -/
theorem decides_as_over_integers (hvalid : o.Valid) (hlimit : o.limit < maxNumber)
    (hprompt : promptTokens ≤ maxNumber) (charges : List Nat) :
    ((start o promptTokens).chargeAll charges).DecidesExactly o (promptTokens + charges.sum) ∧
      ((start o promptTokens).chargeAll charges).RefusesForGood := by
  have hexact : ∀ charges, ((start o promptTokens).chargeAll charges).DecidesExactly o
      (promptTokens + charges.sum) := by
    intro charges
    rw [start_chargeAll hprompt]
    exact decidesExactly_stopped hvalid hlimit _
  have hlater : ∀ further, (((start o promptTokens).chargeAll charges).chargeAll
      further).DecidesExactly o (promptTokens + charges.sum + further.sum) := by
    intro further
    rw [chargeAll_append, Nat.add_assoc, ← List.sum_append]
    exact hexact (charges ++ further)
  exact ⟨hexact charges, refusesForGood_of_exact hlater⟩

def Sample.highest : AssemblyOptions :=
  { limit := maxNumber - 1, softReserve := 5, hardReserve := 3 }

theorem decides_as_over_integers_of_highest :
    Sample.highest.Valid ∧ Sample.highest.limit < maxNumber ∧ maxNumber - 9 ≤ maxNumber ∧
      ((start Sample.highest (maxNumber - 9)).chargeAll [2, maxNumber, 7]).DecidesExactly
        Sample.highest (maxNumber - 9 + (2 + maxNumber + 7)) := by
  have hvalid : Sample.highest.Valid := ⟨by decide, by decide⟩
  have hlimit : Sample.highest.limit < maxNumber := by decide
  have hprompt : maxNumber - 9 ≤ maxNumber := by decide
  exact ⟨hvalid, hlimit, hprompt,
    (decides_as_over_integers hvalid hlimit hprompt [2, maxNumber, 7]).1⟩

end Account
end DiffBudget
