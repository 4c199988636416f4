import DiffBudget.Assembly.Basic
import Mathlib.Data.List.Sort

/-!
# The visits of a compressed run

A visit has one of four outcomes, and what it charges depends on the outcome alone: the rendering
of a shown file, or an entry in one of the two lists, with the heading of the list if it is the
first. So the final total is the total at the start and what is charged for the outcomes, up to
the largest number. The order of the visits is the order of cost, and that of the list of files
among files of one cost.
-/
namespace DiffBudget

namespace Account

theorem charge_charge (a : Account) (m n : Nat) : (a.charge m).charge n = a.charge (m + n) := by
  simp only [charge, saturatingAdd, mk.injEq, true_and]
  omega

theorem charge_zero {a : Account} (h : a.total ≤ maxNumber) : a.charge 0 = a := by
  simp only [charge, saturatingAdd, Nat.add_zero, Nat.min_eq_left h]

theorem charge_total_le (a : Account) (n : Nat) : (a.charge n).total ≤ maxNumber :=
  saturatingAdd_le _ _

theorem chargeAll_eq {a : Account} (h : a.total ≤ maxNumber) (charges : List Nat) :
    a.chargeAll charges = a.charge (sumOf id charges) := by
  induction charges generalizing a with
  | nil => exact (charge_zero h).symm
  | cons n charges ih =>
    have hcons : a.chargeAll (n :: charges) = (a.charge n).chargeAll charges := rfl
    rw [hcons, ih (charge_total_le a n), charge_charge, sumOf_cons, id]

end Account

namespace Compression

variable {o : AssemblyOptions} {count : TokenCounter}

/-- What listing a name charges: an entry, and the heading where the list is begun by it. -/
def listCharge (count : TokenCounter) (heading filename : Text) (begun : Bool) : Nat :=
  (if begun then 0 else count heading) + entryCost count filename

theorem list_eq (heading filename : Text) (begun : Bool) (a : Account) :
    list count heading filename begun a = a.charge (listCharge count heading filename begun) := by
  cases begun with
  | true => simp [list, listCharge]
  | false => simp [list, listCharge, Account.charge_charge]

/-- A visit lists a file without additions as deleted, skips every other file once the total is
in the hard reserve, and else shows or lists it as it is admitted or not. -/
theorem visit_cases (o : AssemblyOptions) (count : TokenCounter) (s : State) (p : PreparedFile) :
    (shortText? o p = none ∧ visit o count s p = (.deleted, { s with
      account := list count deletedHeading p.change.filename s.deletedBegun s.account
      deletedBegun := true })) ∨
    ∃ text, shortText? o p = some text ∧
      ((s.account.pastHardFloor = true ∧ visit o count s p = (.skipped, s)) ∨
      (s.account.pastHardFloor = false ∧ s.account.admits (count text) = true ∧
        visit o count s p =
          (.rendered text, { s with account := s.account.charge (count text) })) ∨
      (s.account.pastHardFloor = false ∧ s.account.admits (count text) = false ∧
        visit o count s p = (.summarized, { s with
          account := list count modifiedHeading p.change.filename s.modifiedBegun s.account
          modifiedBegun := true }))) := by
  cases htext : shortText? o p with
  | none => exact .inl ⟨rfl, by simp only [visit, htext]⟩
  | some text =>
    refine .inr ⟨text, rfl, ?_⟩
    cases hpast : s.account.pastHardFloor with
    | true => exact .inl ⟨rfl, by simp [visit, htext, hpast]⟩
    | false =>
      cases hadmits : s.account.admits (count text) with
      | true => exact .inr (.inl ⟨rfl, rfl, by simp [visit, htext, hpast, hadmits]⟩)
      | false => exact .inr (.inr ⟨rfl, rfl, by simp [visit, htext, hpast, hadmits]⟩)

def outcomeOf (o : AssemblyOptions) (count : TokenCounter) (a : Account) (p : PreparedFile) :
    Outcome :=
  match shortText? o p with
  | none => .deleted
  | some text =>
    if a.pastHardFloor then .skipped
    else if a.admits (count text) then .rendered text
    else .summarized

theorem visit_outcome (s : State) (p : PreparedFile) :
    (visit o count s p).1 = outcomeOf o count s.account p := by
  rcases visit_cases o count s p with
    ⟨htext, hv⟩ | ⟨text, htext, ⟨hpast, hv⟩ | ⟨hpast, hadmits, hv⟩ | ⟨hpast, hadmits, hv⟩⟩
  · simp [outcomeOf, htext, hv]
  · simp [outcomeOf, htext, hpast, hv]
  · simp [outcomeOf, htext, hpast, hadmits, hv]
  · simp [outcomeOf, htext, hpast, hadmits, hv]

theorem outcomeOf_eq_deleted_iff (a : Account) (p : PreparedFile) :
    outcomeOf o count a p = .deleted ↔ p.change.additions? p.hunks = none := by
  have htext : shortText? o p = none ↔ p.change.additions? p.hunks = none := Option.map_eq_none_iff
  rw [← htext, outcomeOf]
  cases shortText? o p with
  | none => exact ⟨fun _ => rfl, fun _ => rfl⟩
  | some text =>
    refine ⟨fun h => ?_, fun h => by cases h⟩
    simp only at h
    split_ifs at h

theorem shortText?_of_rendered {a : Account} {p : PreparedFile} {text : Text}
    (h : outcomeOf o count a p = .rendered text) : shortText? o p = some text := by
  rw [outcomeOf] at h
  cases hshort : shortText? o p with
  | none =>
    rw [hshort] at h
    cases h
  | some short =>
    rw [hshort] at h
    simp only at h
    split_ifs at h
    cases h
    rfl

def namesCharge (count : TokenCounter) (heading : Text) (begun : Bool) (names : List Text) : Nat :=
  (if begun || names.isEmpty then 0 else count heading) + sumOf (entryCost count) names

def namesCost (count : TokenCounter) (heading : Text) (names : List Text) : Nat :=
  if names = [] then 0 else count heading + sumOf count names + names.length

theorem sumOf_entryCost {names : List Text} (h : sumOf count names + names.length ≤ maxNumber) :
    sumOf (entryCost count) names = sumOf count names + names.length := by
  induction names with
  | nil => rfl
  | cons name names ih =>
    simp only [sumOf_cons, List.length_cons] at h ⊢
    rw [ih (by omega), entryCost, wrappingAdd_of_le (by omega)]
    omega

/-- No charge for an entry starts again from 0 while the list costs less than that. -/
theorem namesCharge_eq {heading : Text} {names : List Text}
    (h : namesCost count heading names ≤ maxNumber) :
    namesCharge count heading false names = namesCost count heading names := by
  cases names with
  | nil => rfl
  | cons name names =>
    rw [namesCost, if_neg (List.cons_ne_nil name names)] at h ⊢
    have hcharged : namesCharge count heading false (name :: names) =
        count heading + sumOf (entryCost count) (name :: names) := rfl
    rw [hcharged, sumOf_entryCost (by omega), Nat.add_assoc]

def visitsCharge (count : TokenCounter) (modifiedBegun deletedBegun : Bool)
    (visits : List (PreparedFile × Outcome)) : Nat :=
  sumOf count (bodies visits) +
    namesCharge count modifiedHeading modifiedBegun (namesOf .summarized visits) +
    namesCharge count deletedHeading deletedBegun (namesOf .deleted visits)

theorem visitsCharge_nil (count : TokenCounter) (modifiedBegun deletedBegun : Bool) :
    visitsCharge count modifiedBegun deletedBegun [] = 0 := by
  simp [visitsCharge, namesCharge, bodies, namesOf]

theorem namesCharge_cons (heading name : Text) (begun : Bool) (names : List Text) :
    namesCharge count heading begun (name :: names) =
      listCharge count heading name begun + namesCharge count heading true names := by
  cases begun
  · simp only [namesCharge, listCharge, Bool.false_or, List.isEmpty_cons, Bool.false_eq_true,
      if_false, Bool.true_or, if_true, sumOf_cons]
    omega
  · simp [namesCharge, listCharge]

theorem bodies_cons (v : PreparedFile × Outcome) (visits : List (PreparedFile × Outcome)) :
    bodies (v :: visits) =
      (match v.2 with | .rendered text => [text] | _ => []) ++ bodies visits := by
  obtain ⟨p, outcome⟩ := v
  cases outcome <;> simp [bodies]

theorem namesOf_cons (outcome : Outcome) (v : PreparedFile × Outcome)
    (visits : List (PreparedFile × Outcome)) :
    namesOf outcome (v :: visits) =
      (if v.2 = outcome then [v.1.change.filename] else []) ++ namesOf outcome visits := by
  by_cases h : v.2 = outcome <;> simp [namesOf, h]

theorem visit_charge (s : State) (p : PreparedFile)
    (visits : List (PreparedFile × Outcome)) :
    s.account.charge (visitsCharge count s.modifiedBegun s.deletedBegun
        ((p, (visit o count s p).1) :: visits)) =
      (visit o count s p).2.account.charge
        (visitsCharge count (visit o count s p).2.modifiedBegun
          (visit o count s p).2.deletedBegun visits) := by
  rcases visit_cases o count s p with ⟨-, hv⟩ | ⟨text, -, ⟨-, hv⟩ | ⟨-, -, hv⟩ | ⟨-, -, hv⟩⟩ <;>
    simp only [hv, visitsCharge, bodies_cons, namesOf_cons, reduceCtorEq, if_true, if_false,
      List.nil_append, List.singleton_append, sumOf_cons, namesCharge_cons, list_eq,
      Account.charge_charge] <;>
    congr 1 <;> omega

theorem visit_total_le {s : State} (hs : s.account.total ≤ maxNumber) (p : PreparedFile) :
    (visit o count s p).2.account.total ≤ maxNumber := by
  rcases visit_cases o count s p with ⟨-, hv⟩ | ⟨text, -, ⟨-, hv⟩ | ⟨-, -, hv⟩ | ⟨-, -, hv⟩⟩ <;>
    rw [hv]
  · exact Account.charge_total_le _ _
  · exact hs
  · exact Account.charge_total_le _ _
  · exact Account.charge_total_le _ _

theorem visitAll_account {s : State} (hs : s.account.total ≤ maxNumber)
    (ps : List PreparedFile) :
    (visitAll o count s ps).2.account =
      s.account.charge
        (visitsCharge count s.modifiedBegun s.deletedBegun (visitAll o count s ps).1) := by
  induction ps generalizing s with
  | nil => simp only [visitAll, visitsCharge_nil, Account.charge_zero hs]
  | cons p ps ih =>
    simp only [visitAll]
    rw [ih (visit_total_le hs p), visit_charge]

theorem visitAll_outcome {s : State} (hs : s.account.total ≤ maxNumber) {ps : List PreparedFile}
    {front back : List (PreparedFile × Outcome)} {v : PreparedFile × Outcome}
    (h : (visitAll o count s ps).1 = front ++ v :: back) :
    v.2 = outcomeOf o count
      (s.account.charge (visitsCharge count s.modifiedBegun s.deletedBegun front)) v.1 := by
  induction ps generalizing s front with
  | nil => simp [visitAll] at h
  | cons p ps ih =>
    simp only [visitAll] at h
    cases front with
    | nil =>
      obtain ⟨rfl, -⟩ := List.cons.inj h
      rw [visitsCharge_nil, Account.charge_zero hs]
      exact visit_outcome s p
    | cons w front =>
      obtain ⟨rfl, hrest⟩ := List.cons.inj h
      rw [visit_charge]
      exact ih (visit_total_le hs p) hrest

theorem pairwise_costliest {α : Type} (cost number : α → Nat) {as : List α}
    (hnumber : as.Pairwise fun a b => number a < number b) :
    (as.mergeSort fun a b => cost b ≤ cost a).Pairwise fun a b =>
      cost b < cost a ∨ cost a = cost b ∧ number a < number b := by
  let le : α → α → Bool := fun a b => cost b ≤ cost a
  -- core states stability by sorting the items with their indices
  have hsorted : (as.zipIdx.mergeSort (List.zipIdxLE le)).Pairwise
      fun a b => List.zipIdxLE le a b = true := by
    apply List.pairwise_mergeSort
    · exact List.zipIdxLE_trans fun a b c hab hbc => by
        simp only [le, decide_eq_true_eq] at *
        omega
    · exact List.zipIdxLE_total fun a b => by
        simp only [le, Bool.or_eq_true, decide_eq_true_eq]
        omega
  have hindices : (as.zipIdx.mergeSort (List.zipIdxLE le)).Pairwise fun a b => a.2 ≠ b.2 := by
    refine (List.mergeSort_perm _ _).symm.pairwise ?_ fun h => h.symm
    rw [← List.pairwise_map (f := Prod.snd) (R := fun a b => a ≠ b), List.zipIdx_map_snd]
    exact List.nodup_range'
  rw [← List.mergeSort_zipIdx, List.pairwise_map]
  refine (hsorted.and hindices).imp_of_mem fun {a b} ha hb hab => ?_
  obtain ⟨hle, hne⟩ := hab
  have hga := List.mem_zipIdx_iff_getElem?.mp (List.mem_mergeSort.mp ha)
  have hgb := List.mem_zipIdx_iff_getElem?.mp (List.mem_mergeSort.mp hb)
  obtain ⟨hia, hva⟩ := List.getElem?_eq_some_iff.mp hga
  obtain ⟨hib, hvb⟩ := List.getElem?_eq_some_iff.mp hgb
  simp only [List.zipIdxLE, le, decide_eq_true_eq] at hle
  by_cases htie : cost a.1 ≤ cost b.1
  · right
    by_cases hcost : cost b.1 ≤ cost a.1
    · simp only [hcost, htie, if_true, decide_eq_true_eq] at hle
      refine ⟨by omega, ?_⟩
      rw [← hva, ← hvb]
      exact List.pairwise_iff_getElem.mp hnumber _ _ hia hib (by omega)
    · simp [hcost] at hle
  · left
    omega

end Compression
end DiffBudget
