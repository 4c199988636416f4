import DiffBudget.Proofs.Assembly.Bound

/-!
# Prompt and limit moved together

The three questions that are asked of the account compare its total with the limit less a reserve,
and charges are added to the total alone. So a run that starts with more tokens under a limit that
is higher by as many takes every decision alike, step for step: also where the total stops at the
largest number, as long as the limit lies below it.
-/
namespace DiffBudget

namespace Account

/-- The account with `k` more tokens spent under a limit that is higher by `k`. -/
def raise (a : Account) (k : Nat) : Account :=
  { a with limit := a.limit + k, total := saturatingAdd a.total k }

structure Raisable (a : Account) (k : Nat) : Prop where
  soft : a.softReserve < a.limit
  hard : a.hardReserve < a.limit
  limit : a.limit + k < maxNumber

variable {a : Account} {k : Nat}

theorem charge_raise (a : Account) (k n : Nat) : (a.raise k).charge n = (a.charge n).raise k := by
  simp only [raise, charge, saturatingAdd, mk.injEq, true_and]
  omega

theorem chargeAll_raise (a : Account) (k : Nat) (charges : List Nat) :
    (a.raise k).chargeAll charges = (a.chargeAll charges).raise k := by
  induction charges generalizing a with
  | nil => rfl
  | cons n charges ih =>
    have hfirst : (a.raise k).chargeAll (n :: charges) = ((a.charge n).raise k).chargeAll charges :=
      congrArg (chargeAll · charges) (charge_raise a k n)
    rw [hfirst, ih]
    rfl

theorem withinSoftReserve_raise (h : a.Raisable k) :
    (a.raise k).withinSoftReserve = a.withinSoftReserve := by
  -- a sum that stops at the largest number lies above the raised limit and is answered as without
  have hlimit := h.limit
  apply decide_eq_decide.mpr
  simp only [raise, saturatingAdd]
  omega

theorem admits_raise (h : a.Raisable k) (n : Nat) : (a.raise k).admits n = a.admits n := by
  have hlimit := h.limit
  have hsoft := h.soft
  apply decide_eq_decide.mpr
  simp only [raise, saturatingAdd]
  omega

theorem pastHardFloor_raise (h : a.Raisable k) : (a.raise k).pastHardFloor = a.pastHardFloor := by
  have hlimit := h.limit
  have hhard := h.hard
  apply decide_eq_decide.mpr
  simp only [raise, saturatingAdd]
  omega

theorem start_raise (o : AssemblyOptions) {promptTokens k : Nat}
    (hprompt : promptTokens + k ≤ maxNumber) :
    start { o with limit := o.limit + k } (promptTokens + k) = (start o promptTokens).raise k := by
  simp only [start, raise, saturatingAdd_of_le hprompt]

theorem raisable_start {o : AssemblyOptions} (hvalid : o.Valid) (hlimit : o.limit + k < maxNumber)
    (promptTokens : Nat) : (start o promptTokens).Raisable k := ⟨hvalid.1, hvalid.2, hlimit⟩

theorem Raisable.chargeAll (h : a.Raisable k) (charges : List Nat) :
    (a.chargeAll charges).Raisable k := by
  induction charges generalizing a with
  | nil => exact h
  | cons n charges ih =>
    have hfirst : (a.charge n).Raisable k := ⟨h.soft, h.hard, h.limit⟩
    exact ih hfirst

end Account

namespace Compression

variable {o : AssemblyOptions} {count : TokenCounter} {k : Nat}

def State.raise (s : State) (k : Nat) : State := { s with account := s.account.raise k }

theorem list_raise (heading filename : Text) (begun : Bool) (a : Account) (k : Nat) :
    list count heading filename begun (a.raise k) =
      (list count heading filename begun a).raise k := by
  rw [list_eq, list_eq, Account.charge_raise]

theorem visit_raise {s : State} (h : s.account.Raisable k) (p : PreparedFile) :
    visit { o with limit := o.limit + k } count (s.raise k) p =
      ((visit o count s p).1, (visit o count s p).2.raise k) := by
  have htext : shortText? { o with limit := o.limit + k } p = shortText? o p := rfl
  rw [visit, htext]
  rcases visit_cases o count s p with
    ⟨htext, hv⟩ | ⟨text, htext, ⟨hpast, hv⟩ | ⟨hpast, hadmits, hv⟩ | ⟨hpast, hadmits, hv⟩⟩ <;>
    rw [hv]
  · simp only [htext, State.raise, list_raise]
  · simp only [htext, State.raise, Account.pastHardFloor_raise h, hpast, if_true]
  · simp only [htext, State.raise, Account.pastHardFloor_raise h, hpast, Account.admits_raise h,
      hadmits, if_true, Bool.false_eq_true, if_false, Account.charge_raise]
  · simp only [htext, State.raise, Account.pastHardFloor_raise h, hpast, Account.admits_raise h,
      hadmits, Bool.false_eq_true, if_false, list_raise]

theorem visit_raisable {s : State} (h : s.account.Raisable k) (p : PreparedFile) :
    (visit o count s p).2.account.Raisable k := by
  obtain ⟨hlimit, hsoft, hhard⟩ := visit_reserves o count s p
  exact ⟨by rw [hlimit, hsoft]; exact h.soft, by rw [hlimit, hhard]; exact h.hard,
    by rw [hlimit]; exact h.limit⟩

theorem visitAll_raise {s : State} (h : s.account.Raisable k) (ps : List PreparedFile) :
    visitAll { o with limit := o.limit + k } count (s.raise k) ps =
      ((visitAll o count s ps).1, (visitAll o count s ps).2.raise k) := by
  induction ps generalizing s with
  | nil => rfl
  | cons p ps ih => simp only [visitAll, visit_raise h, ih (visit_raisable h p)]

end Compression

namespace Assembly

open Compression

variable {o : AssemblyOptions} {count : TokenCounter} {files : List FileChange}
  {promptTokens k : Nat}

theorem measuredFiles_raise (o : AssemblyOptions) (count : TokenCounter) (files : List FileChange)
    (k : Nat) :
    measuredFiles { o with limit := o.limit + k } count files = measuredFiles o count files := rfl

theorem fullAccount_raise (o : AssemblyOptions) (count : TokenCounter) (files : List FileChange)
    (hprompt : promptTokens + k ≤ maxNumber) :
    fullAccount { o with limit := o.limit + k } count files (promptTokens + k) =
      (fullAccount o count files promptTokens).raise k := by
  rw [fullAccount, Account.start_raise o hprompt, Account.chargeAll_raise, measuredFiles_raise]
  rfl

theorem run_raise (hvalid : o.Valid) (hlimit : o.limit + k < maxNumber)
    (hprompt : promptTokens + k ≤ maxNumber) (measured : List MeasuredFile) :
    run { o with limit := o.limit + k } count (promptTokens + k) measured =
      ((run o count promptTokens measured).1, (run o count promptTokens measured).2.raise k) := by
  have hstart : ({ account := Account.start { o with limit := o.limit + k } (promptTokens + k) } :
      State) = State.raise { account := Account.start o promptTokens } k := by
    rw [Account.start_raise o hprompt]
    rfl
  have hraisable := Account.raisable_start hvalid hlimit promptTokens
  rw [run, hstart]
  exact visitAll_raise (s := { account := .start o promptTokens }) hraisable _

/-- A run whose prompt and limit are both larger by `k` ends the same but for its total, which is
larger by `k` as long as it stays below the largest number, and leaves the same files. -/
theorem prompt_is_offset (count : TokenCounter) (files : List FileChange) (hvalid : o.Valid)
    (hlimit : o.limit + k < maxNumber) (hprompt : promptTokens + k ≤ maxNumber) :
    let r := (assemble o count files promptTokens).1
    let raised := assemble { o with limit := o.limit + k } count files (promptTokens + k)
    raised.1 = { r with totalTokens := saturatingAdd r.totalTokens k } ∧
      (raised.1.totalTokens < maxNumber → raised.1.totalTokens = r.totalTokens + k) ∧
      raised.2 = (assemble o count files promptTokens).2 := by
  intro r raised
  have hraisable : (fullAccount o count files promptTokens).Raisable k :=
    (Account.raisable_start hvalid hlimit promptTokens).chargeAll _
  have hfits : (fullAccount { o with limit := o.limit + k } count files
      (promptTokens + k)).withinSoftReserve =
        (fullAccount o count files promptTokens).withinSoftReserve := by
    rw [fullAccount_raise o count files hprompt, Account.withinSoftReserve_raise hraisable]
  have hresult : raised.1 = { r with totalTokens := saturatingAdd r.totalTokens k } := by
    change result _ _ _ _ = { result o count files promptTokens with
      totalTokens := saturatingAdd (result o count files promptTokens).totalTokens k }
    rw [result, result, hfits]
    by_cases hwithin : (fullAccount o count files promptTokens).withinSoftReserve = true
    · rw [if_pos hwithin, if_pos hwithin, fullResult, fullAccount_raise o count files hprompt]
      rfl
    · rw [if_neg hwithin, if_neg hwithin, compressedResult, measuredFiles_raise,
        run_raise hvalid hlimit hprompt]
      rfl
  refine ⟨hresult, fun hbelow => ?_, rfl⟩
  rw [hresult] at hbelow ⊢
  have hsum : min (r.totalTokens + k) maxNumber < maxNumber := hbelow
  exact saturatingAdd_of_le (by omega)

theorem prompt_is_offset_of_ordered :
    Sample.options.Valid ∧ Sample.options.limit + 1000 < maxNumber ∧ 7 + 1000 ≤ maxNumber ∧
      (assemble Sample.options List.length Sample.ordered 7).1.compressed = true ∧
      (assemble { Sample.options with limit := 1100 } List.length Sample.ordered 1007).1 =
        { (assemble Sample.options List.length Sample.ordered 7).1 with
          totalTokens :=
            (assemble Sample.options List.length Sample.ordered 7).1.totalTokens + 1000 } := by
  have hvalid : Sample.options.Valid := ⟨by decide, by decide⟩
  have hlimit : Sample.options.limit + 1000 < maxNumber := by decide
  have hprompt : 7 + 1000 ≤ maxNumber := by decide
  have htotal : (assemble Sample.options List.length Sample.ordered 7).1.totalTokens + 1000 ≤
      maxNumber := by
    rw [assemble_of_compressed Sample.ordered_compressed, compressedResult_totalTokens (by decide),
      Sample.ordered_visits]
    decide +kernel
  obtain ⟨hraised, -, -⟩ :=
    prompt_is_offset List.length Sample.ordered hvalid hlimit hprompt
  rw [saturatingAdd_of_le htotal] at hraised
  exact ⟨hvalid, hlimit, hprompt, Sample.ordered_compressed, hraised⟩

end Assembly
end DiffBudget
