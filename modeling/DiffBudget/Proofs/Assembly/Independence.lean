import DiffBudget.Proofs.Assembly.Bound

/-!
# What an assembly does not depend on

Only the prepared files are rendered, measured and visited. So a file that cannot be prepared leaves
no trace but its name among the skipped ones. The costs are added up to the largest number, in
whatever order, and files of different costs are visited in one order only. So the order of the
files decides neither whether a run compresses nor, without ties, what a compressed run makes of
them.
-/
namespace DiffBudget

instance (f : FileChange) : Decidable f.Silent := inferInstanceAs (Decidable (_ ∧ _ ∧ _))

namespace FileChange

def Preparable (f : FileChange) : Prop := ¬f.Failing ∧ ¬f.Silent

instance (f : FileChange) : Decidable f.Preparable := inferInstanceAs (Decidable (_ ∧ _))

theorem preparable_iff (f : FileChange) : f.Preparable ↔ f.prepare.ready?.isSome = true := by
  rw [Preparable, ← f.prepare_spec.2.2]
  cases f.prepare <;> simp [Preparation.ready?]

theorem not_isFaulty_of_preparable {f : FileChange} (h : f.Preparable) :
    f.prepare.isFaulty = false := by
  have hfaulty : ¬f.prepare.isFaulty = true := fun hf => h.1 (f.prepare_spec.1.mp hf)
  simpa using hfaulty

end FileChange

namespace Account

theorem chargeAll_perm {charges others : List Nat} (h : charges.Perm others) (a : Account) :
    a.chargeAll charges = a.chargeAll others := by
  apply h.foldl_eq'
  intro m _ n _ a
  rw [charge_charge, charge_charge, Nat.add_comm]

end Account

namespace Compression

theorem largestFirst_of_perm {files others : List MeasuredFile} (h : files.Perm others)
    (hdistinct : (files.map (·.cost)).Nodup) : largestFirst files = largestFirst others := by
  let le : MeasuredFile → MeasuredFile → Bool := fun a b => b.cost ≤ a.cost
  have htrans : ∀ a b c, le a b = true → le b c = true → le a c = true := by
    intro a b c hab hbc
    simp only [le, decide_eq_true_eq] at *
    omega
  have htotal : ∀ a b, (le a b || le b a) = true := by
    intro a b
    simp only [le, Bool.or_eq_true, decide_eq_true_eq]
    omega
  have hsame : (files.mergeSort le).Perm (others.mergeSort le) :=
    (List.mergeSort_perm _ _).trans (h.trans (List.mergeSort_perm _ _).symm)
  have hsorted : files.mergeSort le = others.mergeSort le := by
    apply List.Perm.eq_of_pairwise _ (List.pairwise_mergeSort htrans htotal files)
      (List.pairwise_mergeSort htrans htotal others) hsame
    intro a b ha hb hab hba
    simp only [le, decide_eq_true_eq] at hab hba
    have ha' : a ∈ files := List.mem_mergeSort.mp ha
    have hb' : b ∈ files := h.mem_iff.mpr (List.mem_mergeSort.mp hb)
    exact List.inj_on_of_nodup_map hdistinct ha' hb' (Nat.le_antisymm hba hab)
  exact congrArg (List.map (·.file)) hsorted

end Compression

namespace Assembly

open Compression

variable {o : AssemblyOptions} {count : TokenCounter} {files others : List FileChange}
  {promptTokens : Nat}

/-! ## Files that cannot be prepared -/

def preparableFiles (files : List FileChange) : List FileChange :=
  files.filter fun f => decide f.Preparable

theorem readyFiles_preparable (files : List FileChange) :
    readyFiles (preparableFiles files) = readyFiles files := by
  rw [readyFiles, preparableFiles, List.filterMap_filter]
  apply List.filterMap_congr
  intro f _
  by_cases hf : f.Preparable
  · simp [hf]
  · have hnone : f.prepare.ready? = none := by simpa [FileChange.preparable_iff] using hf
    simp [hf, hnone]

theorem faultyNames_preparable (files : List FileChange) :
    faultyNames (preparableFiles files) = [] := by
  have hnone : ∀ f ∈ preparableFiles files, ¬f.prepare.isFaulty = true := by
    intro f hf
    have hprep : f.Preparable := by simpa [preparableFiles] using (List.mem_filter.mp hf).2
    simp [FileChange.not_isFaulty_of_preparable hprep]
  rw [faultyNames, List.filter_eq_nil_iff.mpr hnone, List.map_nil]

theorem result_of_readyFiles (h : readyFiles files = readyFiles others)
    (hother : faultyNames others = []) :
    result o count files promptTokens =
      { result o count others promptTokens with
        skipped := faultyNames files ++ (result o count others promptTokens).skipped } := by
  have hmeasured : measuredFiles o count files = measuredFiles o count others := by
    rw [measuredFiles, measuredFiles, h]
  have haccount : fullAccount o count files promptTokens =
      fullAccount o count others promptTokens := by
    rw [fullAccount, fullAccount, hmeasured]
  rw [result, result, haccount]
  split
  · simp [fullResult, haccount, h, hother]
  · simp [compressedResult, hmeasured, hother]

/-- Without the files that cannot be prepared a run ends the same, but for the names of the failing
ones, and leaves every other file with the same cost. -/
theorem bad_files_add_names_only (o : AssemblyOptions) (count : TokenCounter)
    (files : List FileChange) (promptTokens : Nat) :
    let all := assemble o count files promptTokens
    let prepared := assemble o count (preparableFiles files) promptTokens
    all.1 = { prepared.1 with skipped := failingNames files ++ prepared.1.skipped } ∧
      prepared.2 = ((files.zip all.2).filter fun q => decide q.1.Preparable).map (·.2) := by
  intro all prepared
  refine ⟨?_, ?_⟩
  · rw [← faultyNames_eq]
    exact result_of_readyFiles (readyFiles_preparable files).symm (faultyNames_preparable files)
  · have hzip : files.zip all.2 = files.map fun f => (f, recordCost o count f) := by
      exact List.map_prod_left_eq_zip.symm
    rw [hzip, List.filter_map, List.map_map]
    rfl

/-! ## The order of the files -/

theorem readyFiles_perm (h : files.Perm others) :
    (readyFiles files).Perm (readyFiles others) := h.filterMap _

theorem failingNames_perm (h : files.Perm others) :
    (failingNames files).Perm (failingNames others) := (h.filter _).map _

theorem measuredFiles_perm (h : files.Perm others) :
    (measuredFiles o count files).Perm (measuredFiles o count others) := (readyFiles_perm h).map _

theorem fullAccount_of_perm (h : files.Perm others) (o : AssemblyOptions) (count : TokenCounter)
    (promptTokens : Nat) : fullAccount o count files promptTokens =
      fullAccount o count others promptTokens :=
  Account.chargeAll_perm ((measuredFiles_perm h).map _) _

theorem run_of_perm (h : files.Perm others)
    (hdistinct : ((measuredFiles o count files).map (·.cost)).Nodup) (promptTokens : Nat) :
    run o count promptTokens (measuredFiles o count files) =
      run o count promptTokens (measuredFiles o count others) := by
  rw [run, run, largestFirst_of_perm (measuredFiles_perm h) hdistinct]

def fullBodies (o : AssemblyOptions) (files : List FileChange) : List Text :=
  (readyFiles files).map (·.fullText o)

/-- Whether a run compresses does not depend on the order of the files, and neither does the total
or, up to its order, what is shown if it does not. When no two files cost the same, a compressed run
depends on it only in the order of the failing names. -/
theorem order_matters_in_ties_only (h : files.Perm others) (o : AssemblyOptions)
    (count : TokenCounter) (promptTokens : Nat) :
    let r := (assemble o count files promptTokens).1
    let s := (assemble o count others promptTokens).1
    let floor := namesOf .skipped (visits o count files promptTokens)
    r.compressed = s.compressed ∧
    (r.compressed = false →
      r.totalTokens = s.totalTokens ∧ r.text = Text.joinLines (fullBodies o files) ∧
        s.text = Text.joinLines (fullBodies o others) ∧
        (fullBodies o files).Perm (fullBodies o others)) ∧
    (r.compressed = true → ((measuredFiles o count files).map (·.cost)).Nodup →
      r.skipped = failingNames files ++ floor ∧
        s = { r with skipped := failingNames others ++ floor } ∧
        (failingNames files).Perm (failingNames others)) := by
  intro r s floor
  have haccount := fullAccount_of_perm h o count promptTokens
  by_cases hwithin : (fullAccount o count files promptTokens).withinSoftReserve = true
  · have hr : r = fullResult o count files promptTokens := if_pos hwithin
    have hs : s = fullResult o count others promptTokens := if_pos (haccount ▸ hwithin)
    have hshown : r.compressed = false := by
      rw [hr]
      rfl
    refine ⟨by rw [hr, hs]; rfl, fun _ => ?_, fun hc => ?_⟩
    · rw [hr, hs]
      exact ⟨congrArg Account.total haccount, rfl, rfl, (readyFiles_perm h).map _⟩
    · rw [hshown] at hc
      cases hc
  · have hr : r = compressedResult o count files promptTokens := if_neg hwithin
    have hs : s = compressedResult o count others promptTokens := if_neg (haccount ▸ hwithin)
    have hcompressed : r.compressed = true := by
      rw [hr]
      rfl
    refine ⟨by rw [hr, hs]; rfl, fun hc => ?_, fun _ hdistinct => ?_⟩
    · rw [hcompressed] at hc
      cases hc
    · have hrun := run_of_perm h hdistinct promptTokens
      refine ⟨?_, ?_, failingNames_perm h⟩
      · rw [hr, ← faultyNames_eq]
        rfl
      · rw [hr, hs, ← faultyNames_eq]
        simp only [compressedResult, ← hrun]
        rfl

def Sample.distinct : List FileChange :=
  [{ filename := "long".toList, kind := .modified, patch := "@@ -1 +1 @@\n-x\n+y".toList },
    { filename := "c".toList, kind := .modified, patch := "@@ bad".toList },
    { filename := "a".toList, kind := .modified, patch := "@@ -1 +1 @@\n-x\n+y".toList }]

theorem order_matters_in_ties_only_of_distinct :
    Sample.distinct.Perm Sample.distinct.reverse ∧
      (assemble Sample.options List.length Sample.distinct 7).1.compressed = true ∧
      ((measuredFiles Sample.options List.length Sample.distinct).map (·.cost)).Nodup ∧
      (assemble Sample.options List.length Sample.distinct.reverse 7).1.text =
        (assemble Sample.options List.length Sample.distinct 7).1.text := by
  have hperm : Sample.distinct.Perm Sample.distinct.reverse := (List.reverse_perm _).symm
  have hcompressed :
      (assemble Sample.options List.length Sample.distinct 7).1.compressed = true := by
    decide +kernel
  have hdistinct :
      ((measuredFiles Sample.options List.length Sample.distinct).map (·.cost)).Nodup := by
    decide +kernel
  obtain ⟨-, -, hsame⟩ := order_matters_in_ties_only hperm Sample.options List.length 7
  obtain ⟨-, hresult, -⟩ := hsame hcompressed hdistinct
  exact ⟨hperm, hcompressed, hdistinct, by rw [hresult]⟩

end Assembly
end DiffBudget
