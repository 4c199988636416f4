import DiffBudget.Proofs.Assembly.Appearance
import DiffBudget.Proofs.Assembly.Independence

/-!
# Runs over a shared list

The first pass leaves in the record of every prepared file what its full rendering costs, and by
these records the files are put into order. So a cost that an earlier run has left is never read,
and a file looks the same to a run whatever cost its record holds. Runs over one list are
independent of each other, in whatever number and order they come.
-/
namespace DiffBudget

def FileChange.unpriced (f : FileChange) : FileChange := { f with tokenCount := none }

def PreparedFile.unpriced (p : PreparedFile) : PreparedFile :=
  { p with change := p.change.unpriced }

namespace FileChange

theorem prepared_unpriced (f : FileChange) :
    f.unpriced.prepared = f.prepared.map (Option.map PreparedFile.unpriced) := by
  have htext : ∀ side, f.unpriced.contentText side = f.contentText side := by
    intro side
    cases side <;> rfl
  have hpatch : ∀ old new, f.unpriced.patchText old new = f.patchText old new := fun _ _ => rfl
  simp only [prepared, htext, hpatch, bind, Except.bind, pure, Except.pure]
  cases f.contentText .old with
  | error e => rfl
  | ok old =>
    cases f.contentText .new with
    | error e => rfl
    | ok new =>
      cases hread : f.patchText old new with
      | none => simp only [hread]; rfl
      | some patch => cases hparse : Patch.parse patch <;> simp only [hread, hparse] <;> rfl

theorem ready?_unpriced (f : FileChange) :
    f.unpriced.prepare.ready? = f.prepare.ready?.map PreparedFile.unpriced := by
  rw [prepare, prepare, prepared_unpriced]
  rcases f.prepared with e | _ | p <;> rfl

theorem isFaulty_unpriced (f : FileChange) :
    f.unpriced.prepare.isFaulty = f.prepare.isFaulty := by
  rw [prepare, prepare, prepared_unpriced]
  rcases f.prepared with e | _ | p <;> rfl

end FileChange

namespace Assembly

variable {o : AssemblyOptions} {count : TokenCounter} {files others : List FileChange}

/-! ## What the passes come to -/

theorem foldl_step (o : AssemblyOptions) (count : TokenCounter) (files : List FileChange)
    (s : FullPass) :
    files.foldl (FullPass.step o count) s =
      { account := s.account.chargeAll ((measuredFiles o count files).map (·.cost))
        texts := s.texts ++ (readyFiles files).map (·.fullText o)
        records := s.records ++ files.map (recordCost o count) } := by
  induction files generalizing s with
  | nil => simp [measuredFiles, readyFiles, Account.chargeAll]
  | cons f files ih =>
    rw [List.foldl_cons, ih]
    cases hprepare : f.prepare with
    | ready p =>
      simp [FullPass.step, measuredFiles, readyFiles, recordCost, hprepare, Preparation.ready?,
        Account.chargeAll, measure]
    | silent =>
      simp [FullPass.step, measuredFiles, readyFiles, recordCost, hprepare, Preparation.ready?]
    | faulty e =>
      simp [FullPass.step, measuredFiles, readyFiles, recordCost, hprepare, Preparation.ready?]

theorem recordedFiles_recordCost (o : AssemblyOptions) (count : TokenCounter)
    (files : List FileChange) :
    recordedFiles files (files.map (recordCost o count)) = measuredFiles o count files := by
  have hzip : files.zip (files.map (recordCost o count)) =
      files.map fun f => (f, recordCost o count f) := List.map_prod_left_eq_zip.symm
  rw [recordedFiles, hzip, List.filterMap_map, measuredFiles, readyFiles, List.map_filterMap]
  apply List.filterMap_congr
  intro f _
  cases hprepare : f.prepare with
  | ready p => simp [recordCost, hprepare, Preparation.ready?, measure]
  | silent => simp [hprepare, Preparation.ready?]
  | faulty e => simp [hprepare, Preparation.ready?]

/-- Assembling over the records of a list is assembling with costs that are measured afresh. -/
theorem assembleShared_eq (o : AssemblyOptions) (count : TokenCounter) (files : List FileChange)
    (promptTokens : Nat) :
    assembleShared o count files promptTokens = assemble o count files promptTokens := by
  have hpass : fullPass o count files promptTokens =
      { account := fullAccount o count files promptTokens
        texts := (readyFiles files).map (·.fullText o)
        records := files.map (recordCost o count) } := foldl_step o count files _
  simp only [assembleShared, hpass, recordedFiles_recordCost, assemble, result]
  split <;> rfl

/-! ## What the passes do not read -/

def SameButCosts (files others : List FileChange) : Prop :=
  files.map FileChange.unpriced = others.map FileChange.unpriced

theorem appearances_unpriced (o : AssemblyOptions) (files : List FileChange) :
    appearances o (files.map FileChange.unpriced) = appearances o files := by
  have hready : readyFiles (files.map FileChange.unpriced) =
      (readyFiles files).map PreparedFile.unpriced := by
    rw [readyFiles, readyFiles, List.filterMap_map, List.map_filterMap]
    exact List.filterMap_congr fun f _ => f.ready?_unpriced
  rw [appearances, appearances, hready, List.map_map]
  rfl

theorem faultyNames_unpriced (files : List FileChange) :
    faultyNames (files.map FileChange.unpriced) = faultyNames files := by
  rw [faultyNames, faultyNames, List.filter_map, List.map_map]
  congr 1
  exact List.filter_congr fun f _ => f.isFaulty_unpriced

theorem result_of_sameButCosts (h : SameButCosts files others) (o : AssemblyOptions)
    (count : TokenCounter) (promptTokens : Nat) :
    result o count files promptTokens = result o count others promptTokens := by
  have hlook : appearances o files = appearances o others := by
    rw [← appearances_unpriced o files, h, appearances_unpriced]
  have hfaulty : faultyNames files = faultyNames others := by
    rw [← faultyNames_unpriced files, h, faultyNames_unpriced]
  exact result_of_appearances hlook hfaulty count promptTokens

/-- What a run leaves of a record: a new cost if the file is prepared, and all else as it was. -/
structure Recorded (o : AssemblyOptions) (count : TokenCounter) (f g : FileChange) : Prop where
  same : g.unpriced = f.unpriced
  prepared : ∀ p, f.prepare = .ready p → g.tokenCount = some (count (p.fullText o))
  other : (∀ p, f.prepare ≠ .ready p) → g.tokenCount = f.tokenCount

theorem recorded_recordCost (o : AssemblyOptions) (count : TokenCounter) (f : FileChange) :
    Recorded o count f (recordCost o count f) := by
  cases hprepare : f.prepare with
  | ready p =>
    have hrecord : recordCost o count f = { f with tokenCount := some (count (p.fullText o)) } := by
      simp [recordCost, hprepare, measure]
    rw [hrecord]
    refine ⟨rfl, fun q hq => ?_, fun h => absurd hprepare (h p)⟩
    obtain rfl := Preparation.ready.inj (hprepare.symm.trans hq)
    rfl
  | silent =>
    have hrecord : recordCost o count f = f := by simp [recordCost, hprepare]
    rw [hrecord]
    exact ⟨rfl, fun q hq => (by simp [hprepare] at hq), fun _ => rfl⟩
  | faulty e =>
    have hrecord : recordCost o count f = f := by simp [recordCost, hprepare]
    rw [hrecord]
    exact ⟨rfl, fun q hq => (by simp [hprepare] at hq), fun _ => rfl⟩

theorem sameButCosts_recordCost (o : AssemblyOptions) (count : TokenCounter)
    (files : List FileChange) : SameButCosts (files.map (recordCost o count)) files := by
  rw [SameButCosts, List.map_map]
  exact List.map_congr_left fun f _ => (recorded_recordCost o count f).same

/-! ## Runs one after another -/

structure Job where
  options : AssemblyOptions
  count : TokenCounter
  promptTokens : Nat

/-- The results of runs over one list, each over the records that the one before has left, and the
records that the last one leaves. -/
def runAll (files : List FileChange) : List Job → List Assembled × List FileChange
  | [] => ([], files)
  | j :: js =>
    let (r, files) := assembleShared j.options j.count files j.promptTokens
    let (rs, files) := runAll files js
    (r :: rs, files)

theorem runAll_of_sameButCosts (h : SameButCosts files others) (jobs : List Job) :
    (runAll files jobs).1 =
      jobs.map fun j => (assembleShared j.options j.count others j.promptTokens).1 := by
  induction jobs generalizing files with
  | nil => rfl
  | cons j js ih =>
    -- a run changes costs only, so the list it leaves is still like the fresh one
    have hleft : SameButCosts (assembleShared j.options j.count files j.promptTokens).2 others := by
      rw [assembleShared_eq]
      exact (sameButCosts_recordCost j.options j.count files).trans h
    have hfirst : (assembleShared j.options j.count files j.promptTokens).1 =
        (assembleShared j.options j.count others j.promptTokens).1 := by
      rw [assembleShared_eq, assembleShared_eq]
      exact result_of_sameButCosts h _ _ _
    simp only [runAll, List.map_cons]
    rw [ih hleft, hfirst]

/-- A run does not depend on the costs that it finds in the records, and leaves its own there and
nothing else. So each of any number of runs over one list has the result that it would have over a
fresh one. -/
theorem runs_independent (h : SameButCosts files others) (o : AssemblyOptions)
    (count : TokenCounter) (promptTokens : Nat) (jobs : List Job) :
    (assembleShared o count files promptTokens).1 =
        (assembleShared o count others promptTokens).1 ∧
      List.Forall₂ (Recorded o count) files (assembleShared o count files promptTokens).2 ∧
      (runAll files jobs).1 =
        jobs.map fun j => (assembleShared j.options j.count others j.promptTokens).1 := by
  refine ⟨?_, ?_, runAll_of_sameButCosts h jobs⟩
  · rw [assembleShared_eq, assembleShared_eq]
    exact result_of_sameButCosts h o count promptTokens
  · rw [assembleShared_eq]
    change List.Forall₂ (Recorded o count) files (files.map (recordCost o count))
    rw [List.forall₂_map_right_iff]
    exact List.forall₂_same.mpr fun f _ => recorded_recordCost o count f

def Sample.stale : List FileChange :=
  Sample.distinct.map fun f => { f with tokenCount := some (100 - f.filename.length) }

theorem runs_independent_of_stale :
    SameButCosts Sample.stale Sample.distinct ∧
      (assembleShared Sample.options List.length Sample.stale 7).1.compressed = true ∧
      (assembleShared Sample.options List.length Sample.stale 7).1 =
        (assembleShared Sample.options List.length Sample.distinct 7).1 ∧
      (runAll Sample.stale [⟨Sample.options, fun _ => 40, 7⟩, ⟨Sample.options, List.length, 7⟩]).1 =
        [(assembleShared Sample.options (fun _ => 40) Sample.distinct 7).1,
          (assembleShared Sample.options List.length Sample.distinct 7).1] := by
  have hsame : SameButCosts Sample.stale Sample.distinct := by
    rw [SameButCosts, Sample.stale, List.map_map]
    rfl
  have hcompressed :
      (assembleShared Sample.options List.length Sample.stale 7).1.compressed = true := by
    rw [assembleShared_eq]
    decide +kernel
  obtain ⟨hresult, -, hruns⟩ := runs_independent hsame Sample.options List.length 7
    [⟨Sample.options, fun _ => 40, 7⟩, ⟨Sample.options, List.length, 7⟩]
  exact ⟨hsame, hcompressed, hresult, hruns⟩

end Assembly
end DiffBudget
