import DiffBudget.Proofs.Assembly.Readiness
import DiffBudget.Proofs.Assembly.Visits

/-!
# Every file is accounted for

A run that fits renders the prepared files in their order. A compressed run visits each of them
once, from the costliest down: what a file becomes is one of four outcomes, and the text, the
three lists of names and the total are read off the outcomes in the order of the visits. Failing
files are named in front of the skipped ones in either case, silent files nowhere.
-/
namespace DiffBudget

instance (f : FileChange) : Decidable f.Failing := decidable_of_iff _ f.prepare_spec.1

namespace Assembly

variable {o : AssemblyOptions} {count : TokenCounter} {files : List FileChange}
  {promptTokens : Nat}

def preparedAt? (files : List FileChange) (place : Nat) : Option PreparedFile :=
  files[place]?.bind (·.prepare.ready?)

def preparedPlaces (files : List FileChange) : List Nat :=
  (List.range files.length).filter fun place => (preparedAt? files place).isSome

def failingNames (files : List FileChange) : List Text :=
  (files.filter fun f => decide f.Failing).map (·.filename)

def fullCost (o : AssemblyOptions) (count : TokenCounter) (p : PreparedFile) : Nat :=
  count (p.fullText o)

/-- A list as it is printed: an empty line, the heading, and the names below each other. -/
def printedList (heading : Text) (names : List Text) : Text :=
  if names = [] then [] else "\n\n".toList ++ heading ++ ['\n'].intercalate names

def rendering? : Outcome → Option Text
  | .rendered text => some text
  | _ => none

/-- The result tells of these visits and of no other files: its text is the renderings in turn, one
line feed between neighbours, and the two lists below them; every list of names has the files with
its outcome, in the order of the visits. -/
structure Reports (files : List FileChange) (visits : List (PreparedFile × Outcome))
    (r : Assembled) : Prop where
  text : r.text = ['\n'].intercalate (visits.filterMap (rendering? ·.2)) ++
    printedList "More modified files:\n".toList r.summarized ++
    printedList "Deleted files:\n".toList r.deleted
  skipped : r.skipped = failingNames files ++
    (visits.filter fun v => v.2 = .skipped).map (·.1.change.filename)
  summarized : r.summarized =
    (visits.filter fun v => v.2 = .summarized).map (·.1.change.filename)
  deleted : r.deleted = (visits.filter fun v => v.2 = .deleted).map (·.1.change.filename)

structure Visit where
  place : Nat
  file : PreparedFile
  outcome : Outcome

def Visit.result (v : Visit) : PreparedFile × Outcome := (v.file, v.outcome)

/-- The visits account for every prepared file and for the result. -/
structure Accounted (o : AssemblyOptions) (count : TokenCounter) (files : List FileChange)
    (promptTokens : Nat) (r : Assembled) (visits : List Visit) : Prop where
  places : (visits.map (·.place)).Perm (preparedPlaces files)
  prepared : ∀ v ∈ visits, preparedAt? files v.place = some v.file
  ordered : visits.Pairwise fun a b =>
    fullCost o count b.file < fullCost o count a.file ∨
      fullCost o count a.file = fullCost o count b.file ∧ a.place < b.place
  deleted_iff : ∀ v ∈ visits,
    v.outcome = .deleted ↔ v.file.change.additions? v.file.hunks = none
  decided : ∀ front v back, visits = front ++ v :: back → v.outcome =
    Compression.outcomeOf o count ((Account.start o promptTokens).charge
      (Compression.visitsCharge count false false (front.map Visit.result))) v.file
  rendered : ∀ v ∈ visits, ∀ text, v.outcome = .rendered text →
    ∃ kept, v.file.change.additions? v.file.hunks = some kept ∧
      text = Rendering.text o.lineNumbers v.file.change.filename kept
  reports : Reports files (visits.map Visit.result) r
  total : r.totalTokens =
    saturatingAdd promptTokens
      (Compression.visitsCharge count false false (visits.map Visit.result))

def placed (files : List FileChange) : List (Nat × PreparedFile) :=
  files.zipIdx.filterMap fun q => q.1.prepare.ready?.map (q.2, ·)

theorem placed_map_snd (files : List FileChange) : (placed files).map (·.2) = readyFiles files := by
  simp only [placed, readyFiles, List.map_filterMap, Option.map_map, Function.comp_def,
    Option.map_id']
  conv_rhs => rw [← List.zipIdx_map_fst 0 files]
  rw [List.filterMap_map]
  rfl

theorem mem_placed {place : Nat} {p : PreparedFile} :
    (place, p) ∈ placed files ↔ preparedAt? files place = some p := by
  simp only [placed, preparedAt?, List.mem_filterMap, List.mem_zipIdx_iff_getElem?, Prod.exists,
    Option.map_eq_some_iff, Prod.mk.injEq, Option.bind_eq_some_iff]
  constructor
  · rintro ⟨f, i, hf, q, hq, rfl, rfl⟩
    exact ⟨f, hf, hq⟩
  · rintro ⟨f, hf, hq⟩
    exact ⟨f, place, hf, p, hq, rfl, rfl⟩

theorem placed_increasing (files : List FileChange) :
    (placed files).Pairwise fun a b => a.1 < b.1 := by
  have hindices : files.zipIdx.Pairwise fun a b => a.2 < b.2 := by
    rw [← List.pairwise_map (f := Prod.snd) (R := fun a b => a < b), List.zipIdx_map_snd]
    exact List.pairwise_lt_range'
  refine hindices.filterMap _ ?_
  intro a b hab a' ha' b' hb'
  obtain ⟨p, -, rfl⟩ := Option.map_eq_some_iff.mp ha'
  obtain ⟨q, -, rfl⟩ := Option.map_eq_some_iff.mp hb'
  exact hab

theorem placed_map_fst (files : List FileChange) :
    ((placed files).map (·.1)).Perm (preparedPlaces files) := by
  refine (List.perm_ext_iff_of_nodup ?_ ?_).mpr fun place => ?_
  · rw [List.Nodup, List.pairwise_map]
    exact (placed_increasing files).imp fun h => Nat.ne_of_lt h
  · exact List.nodup_range.filter _
  · simp only [preparedPlaces, List.mem_map, List.mem_filter, List.mem_range, Prod.exists,
      exists_and_right, exists_eq_right, mem_placed, ← Option.isSome_iff_exists]
    refine ⟨fun h => ⟨?_, h⟩, fun h => h.2⟩
    by_contra hout
    simp [preparedAt?, List.getElem?_eq_none (Nat.le_of_not_lt hout)] at h

def visitOrder (o : AssemblyOptions) (count : TokenCounter) (files : List FileChange) :
    List (Nat × PreparedFile) :=
  (placed files).mergeSort fun a b => fullCost o count b.2 ≤ fullCost o count a.2

theorem visitOrder_map_snd (o : AssemblyOptions) (count : TokenCounter)
    (files : List FileChange) :
    (visitOrder o count files).map (·.2) =
      Compression.largestFirst (measuredFiles o count files) := by
  have hmeasured : measuredFiles o count files =
      (placed files).map fun q => measure o count q.2 := by
    rw [measuredFiles, ← placed_map_snd, List.map_map]
    rfl
  rw [Compression.largestFirst, hmeasured, visitOrder,
    ← List.map_mergeSort (f := fun q : Nat × PreparedFile => measure o count q.2)
      (r := fun a b => fullCost o count b.2 ≤ fullCost o count a.2), List.map_map]
  · rfl
  · intro a _ b _
    rfl

theorem visitOrder_ordered (o : AssemblyOptions) (count : TokenCounter)
    (files : List FileChange) :
    (visitOrder o count files).Pairwise fun a b =>
      fullCost o count b.2 < fullCost o count a.2 ∨
        fullCost o count a.2 = fullCost o count b.2 ∧ a.1 < b.1 :=
  Compression.pairwise_costliest (fun q : Nat × PreparedFile => fullCost o count q.2)
    (fun q => q.1) (placed_increasing files)

theorem exists_visits {order : List (Nat × PreparedFile)} {results : List (PreparedFile × Outcome)}
    (h : results.map (·.1) = order.map (·.2)) :
    ∃ visits : List Visit, visits.map (fun v => (v.place, v.file)) = order ∧
      visits.map Visit.result = results := by
  induction order generalizing results with
  | nil => exact ⟨[], rfl, (List.map_eq_nil_iff.mp h).symm⟩
  | cons q order ih =>
    cases results with
    | nil => simp at h
    | cons result results =>
      obtain ⟨hfile, hrest⟩ := List.cons.inj h
      obtain ⟨visits, horder, hresults⟩ := ih hrest
      refine ⟨⟨q.1, q.2, result.2⟩ :: visits, by rw [List.map_cons, horder], ?_⟩
      rw [List.map_cons, hresults]
      exact congrArg (· :: results) (Prod.ext hfile.symm rfl)

theorem faultyNames_eq (files : List FileChange) : faultyNames files = failingNames files := by
  rw [faultyNames, failingNames]
  congr 1
  refine List.filter_congr fun f _ => ?_
  rw [Bool.eq_iff_iff, decide_eq_true_iff]
  exact f.prepare_spec.1

theorem bodies_eq (visits : List (PreparedFile × Outcome)) :
    Compression.bodies visits = visits.filterMap (rendering? ·.2) := by
  rw [Compression.bodies]
  congr 1
  funext v
  obtain ⟨p, outcome⟩ := v
  cases outcome <;> rfl

theorem namesOf_eq (outcome : Outcome) (visits : List (PreparedFile × Outcome)) :
    Compression.namesOf outcome visits =
      (visits.filter fun v => v.2 = outcome).map (·.1.change.filename) := rfl

theorem listing_eq (heading : Text) (names : List Text) :
    Compression.listing heading names = printedList heading names := by
  cases names <;> rfl

theorem compressedResult_reports (o : AssemblyOptions) (count : TokenCounter)
    (files : List FileChange) (promptTokens : Nat) :
    Reports files (Compression.run o count promptTokens (measuredFiles o count files)).1
      (compressedResult o count files promptTokens) := by
  refine ⟨?_, ?_, namesOf_eq _ _, namesOf_eq _ _⟩
  · simp only [compressedResult, Compression.text, bodies_eq, listing_eq]
    rfl
  · rw [← namesOf_eq, ← faultyNames_eq]
    rfl

theorem compressedResult_accounted (hprompt : promptTokens ≤ maxNumber) :
    ∃ visits, Accounted o count files promptTokens
      (compressedResult o count files promptTokens) visits := by
  let s : Compression.State := { account := .start o promptTokens }
  let run := Compression.run o count promptTokens (measuredFiles o count files)
  have hfiles : run.1.map (·.1) = (visitOrder o count files).map (·.2) := by
    rw [visitOrder_map_snd]
    exact Compression.visitAll_map_fst o count s _
  obtain ⟨visits, horder, hresults⟩ := exists_visits hfiles
  have hdecided : ∀ front v back, visits = front ++ v :: back → v.outcome =
      Compression.outcomeOf o count (s.account.charge
        (Compression.visitsCharge count false false (front.map Visit.result))) v.file := by
    intro front v back hsplit
    have hrun : run.1 = front.map Visit.result ++ v.result :: back.map Visit.result := by
      rw [← List.map_cons, ← List.map_append, ← hsplit]
      exact hresults.symm
    exact Compression.visitAll_outcome (s := s) hprompt hrun
  have houtcome : ∀ v ∈ visits, ∃ a, v.outcome = Compression.outcomeOf o count a v.file := by
    intro v hv
    obtain ⟨front, back, hsplit⟩ := List.append_of_mem hv
    exact ⟨_, hdecided front v back hsplit⟩
  refine ⟨visits, ?_, ?_, ?_, ?_, hdecided, ?_, ?_, ?_⟩
  · have hplaces : visits.map (·.place) = (visitOrder o count files).map (·.1) := by
      rw [← horder, List.map_map]
      rfl
    rw [hplaces]
    exact ((List.mergeSort_perm _ _).map _).trans (placed_map_fst files)
  · intro v hv
    have hmem : (v.place, v.file) ∈ visitOrder o count files :=
      horder ▸ List.mem_map_of_mem (f := fun v : Visit => (v.place, v.file)) hv
    exact mem_placed.mp (List.mem_mergeSort.mp hmem)
  · have hordered := visitOrder_ordered o count files
    rwa [← horder, List.pairwise_map] at hordered
  · intro v hv
    obtain ⟨a, ha⟩ := houtcome v hv
    rw [ha]
    exact Compression.outcomeOf_eq_deleted_iff a v.file
  · intro v hv text htext
    obtain ⟨a, ha⟩ := houtcome v hv
    obtain ⟨kept, hkept, rfl⟩ := Option.map_eq_some_iff.mp
      (Compression.shortText?_of_rendered (ha.symm.trans htext))
    exact ⟨kept, hkept, rfl⟩
  · rw [hresults]
    exact compressedResult_reports o count files promptTokens
  · rw [hresults]
    exact congrArg Account.total (Compression.visitAll_account (s := s) hprompt _)

theorem fullAccount_total (hprompt : promptTokens ≤ maxNumber) :
    (fullAccount o count files promptTokens).total =
      saturatingAdd promptTokens (sumOf (fullCost o count) (readyFiles files)) := by
  have hcosts : sumOf id ((measuredFiles o count files).map (·.cost)) =
      sumOf (fullCost o count) (readyFiles files) := by
    rw [measuredFiles]
    induction readyFiles files with
    | nil => rfl
    | cons p ps ih => simpa [measure, fullCost] using ih
  rw [fullAccount, Account.chargeAll_eq hprompt, hcosts]
  rfl

theorem withinSoftReserve_fullAccount (hprompt : promptTokens ≤ maxNumber) :
    (fullAccount o count files promptTokens).withinSoftReserve = true ↔
      saturatingAdd (promptTokens + sumOf (fullCost o count) (readyFiles files)) o.softReserve <
        o.limit := by
  have hreserve : (fullAccount o count files promptTokens).softReserve = o.softReserve ∧
      (fullAccount o count files promptTokens).limit = o.limit := by
    rw [fullAccount, Account.chargeAll_eq hprompt]
    exact ⟨rfl, rfl⟩
  rw [Account.withinSoftReserve, decide_eq_true_iff, fullAccount_total hprompt, hreserve.1,
    hreserve.2]
  simp only [saturatingAdd]
  omega

/-- Whether a run is compressed, and what its result says of every file in either case. -/
theorem every_file_accounted (o : AssemblyOptions) (count : TokenCounter)
    (files : List FileChange) (hprompt : promptTokens ≤ maxNumber) :
    let r := (assemble o count files promptTokens).1
    (∀ f ∈ files, (∃ p, f.prepare = .ready p) ↔ ¬f.Failing ∧ ¬f.Silent) ∧
    (r.compressed = false ↔
      saturatingAdd (promptTokens + sumOf (fullCost o count) (readyFiles files)) o.softReserve <
        o.limit) ∧
    (r.compressed = false →
      r.text = ['\n'].intercalate ((readyFiles files).map (·.fullText o)) ∧
        r.summarized = [] ∧ r.deleted = [] ∧ r.skipped = failingNames files ∧
        r.totalTokens =
          saturatingAdd promptTokens (sumOf (fullCost o count) (readyFiles files))) ∧
    (r.compressed = true → ∃ visits, Accounted o count files promptTokens r visits) := by
  intro r
  refine ⟨fun f _ => f.prepare_spec.2.2, ?_⟩
  rw [← withinSoftReserve_fullAccount hprompt]
  by_cases hwithin : (fullAccount o count files promptTokens).withinSoftReserve = true
  · have hr : r = fullResult o count files promptTokens := if_pos hwithin
    rw [hr, fullResult]
    simp only [hwithin, false_implies, true_and, and_true, true_implies,
      Bool.false_eq_true]
    exact ⟨rfl, faultyNames_eq files, fullAccount_total hprompt⟩
  · have hr : r = compressedResult o count files promptTokens := if_neg hwithin
    have hcompressed : r.compressed = true := by
      rw [hr]
      rfl
    simp only [hcompressed, hwithin, Bool.true_eq_false, false_implies, true_and, true_implies,
      Bool.false_eq_true]
    rw [hr]
    exact compressedResult_accounted hprompt

namespace Sample

def options : AssemblyOptions := { limit := 100, softReserve := 50, hardReserve := 10 }

def changes : List FileChange :=
  [{ filename := "a".toList, kind := .modified, patch := "@@ -1 +1 @@\n-x\n+y".toList },
    { filename := "b".toList, kind := .modified, patch := "@@ -1 +0,0 @@\n-x".toList },
    { filename := "c".toList, kind := .modified, patch := "@@ bad".toList },
    { filename := "d".toList, kind := .modified },
    { filename := "a".toList, kind := .modified, patch := "@@ -1 +1 @@\n-x\n+y".toList }]

end Sample

theorem every_file_accounted_of_sample :
    7 ≤ maxNumber ∧ (assemble Sample.options List.length Sample.changes 7).1.compressed = true ∧
      ∃ visits, Accounted Sample.options List.length Sample.changes 7
        (assemble Sample.options List.length Sample.changes 7).1 visits :=
  have hprompt : 7 ≤ maxNumber := by decide
  have hcompressed :
      (assemble Sample.options List.length Sample.changes 7).1.compressed = true := by
    decide +kernel
  ⟨hprompt, hcompressed,
    (every_file_accounted Sample.options List.length Sample.changes hprompt).2.2.2 hcompressed⟩

end Assembly
end DiffBudget
