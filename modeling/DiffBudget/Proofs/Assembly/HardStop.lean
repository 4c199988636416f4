import DiffBudget.Proofs.Assembly.Bound

/-!
# The hard stop

No visit lowers the total. Once it has gone into the hard reserve it stays there, so behind a file
that is skipped for it no other file is shown or named as modified. What becomes of a file with
lines to show depends on the total before it and on its cost, and on nothing else: it is skipped
past the hard reserve, and else it is shown or named as it leaves the soft reserve free or not. The
totals stop at the largest number; below a smaller limit this cannot be told from exact sums.
-/
namespace DiffBudget

namespace Account

theorem pastHardFloor_charge {a : Account} (ha : a.total ≤ maxNumber)
    (h : a.pastHardFloor = true) (n : Nat) : (a.charge n).pastHardFloor = true := by
  have hfloor : a.limit - a.hardReserve < a.total := of_decide_eq_true h
  exact decide_eq_true (Nat.lt_of_lt_of_le hfloor (le_charge_total ha n))

end Account

namespace Compression

variable {o : AssemblyOptions} {count : TokenCounter} {s : State}

theorem exists_visit_charge (hs : s.account.total ≤ maxNumber) (p : PreparedFile) :
    ∃ n, (visit o count s p).2.account = s.account.charge n := by
  rcases visit_cases o count s p with ⟨-, hv⟩ | ⟨text, -, ⟨-, hv⟩ | ⟨-, -, hv⟩ | ⟨-, -, hv⟩⟩
  · exact ⟨_, by rw [hv, list_eq]⟩
  · exact ⟨0, by rw [hv, Account.charge_zero hs]⟩
  · exact ⟨_, by rw [hv]⟩
  · exact ⟨_, by rw [hv, list_eq]⟩

theorem visit_pastHardFloor (hs : s.account.total ≤ maxNumber)
    (h : s.account.pastHardFloor = true) (p : PreparedFile) :
    (visit o count s p).2.account.pastHardFloor = true := by
  obtain ⟨n, hn⟩ : ∃ n, (visit o count s p).2.account = s.account.charge n :=
    exists_visit_charge hs p
  rw [hn]
  exact Account.pastHardFloor_charge hs h n

theorem visit_of_pastHardFloor (h : s.account.pastHardFloor = true) (p : PreparedFile) :
    (visit o count s p).1 = .skipped ∨ (visit o count s p).1 = .deleted := by
  rcases visit_cases o count s p with
    ⟨-, hv⟩ | ⟨text, -, ⟨-, hv⟩ | ⟨hpast, -, -⟩ | ⟨hpast, -, -⟩⟩
  · exact .inr (congrArg Prod.fst hv)
  · exact .inl (congrArg Prod.fst hv)
  · exact absurd h (by simp [hpast])
  · exact absurd h (by simp [hpast])

theorem pastHardFloor_of_skipped {p : PreparedFile} (h : (visit o count s p).1 = .skipped) :
    s.account.pastHardFloor = true := by
  rcases visit_cases o count s p with ⟨-, hv⟩ | ⟨text, -, ⟨hpast, -⟩ | ⟨-, -, hv⟩ | ⟨-, -, hv⟩⟩
  · rw [hv] at h
    cases h
  · exact hpast
  · rw [hv] at h
    cases h
  · rw [hv] at h
    cases h

/-- A run that begins past the hard reserve shows nothing and names no modified file. -/
theorem visitAll_of_pastHardFloor (hs : s.account.total ≤ maxNumber)
    (h : s.account.pastHardFloor = true) (ps : List PreparedFile) :
    ∀ v ∈ (visitAll o count s ps).1, v.2 = .skipped ∨ v.2 = .deleted := by
  induction ps generalizing s with
  | nil => exact fun v hv => absurd hv List.not_mem_nil
  | cons p ps ih =>
    exact List.forall_mem_cons.mpr
      ⟨visit_of_pastHardFloor h p, ih (visit_total_le hs p) (visit_pastHardFloor hs h p)⟩

theorem visitAll_stopped (hs : s.account.total ≤ maxNumber) {ps : List PreparedFile}
    {front back : List (PreparedFile × Outcome)} {v : PreparedFile × Outcome}
    (hrun : (visitAll o count s ps).1 = front ++ v :: back) (hv : v.2 = .skipped) :
    ∀ w ∈ back, w.2 = .skipped ∨ w.2 = .deleted := by
  induction ps generalizing s front with
  | nil => simp [visitAll] at hrun
  | cons p ps ih =>
    simp only [visitAll] at hrun
    cases front with
    | nil =>
      obtain ⟨rfl, rfl⟩ := List.cons.inj hrun
      have hpast : (visit o count s p).2.account.pastHardFloor = true :=
        visit_pastHardFloor hs (pastHardFloor_of_skipped hv) p
      exact visitAll_of_pastHardFloor (visit_total_le hs p) hpast ps
    | cons w front => exact ih (visit_total_le hs p) (List.cons.inj hrun).2

/-- What becomes of a file that is shown by the text, from the total in front of it and the total
with the text. -/
def outcomeByTotal (o : AssemblyOptions) (total withText : Nat) (text : Text) : Outcome :=
  if o.limit - o.hardReserve < total then .skipped
  else if withText ≤ o.limit - o.softReserve then .rendered text
  else .summarized

theorem outcomeOf_start {p : PreparedFile} {kept : List Hunk} (promptTokens charged : Nat)
    (hkept : p.change.additions? p.hunks = some kept) :
    let text := Rendering.text o.lineNumbers p.change.filename kept
    outcomeOf o count ((Account.start o promptTokens).charge charged) p =
      outcomeByTotal o (saturatingAdd promptTokens charged)
        (saturatingAdd promptTokens (charged + count text)) text := by
  intro text
  have hshort : shortText? o p = some text := congrArg (Option.map _) hkept
  have hsum : saturatingAdd (saturatingAdd promptTokens charged) (count text) =
      saturatingAdd promptTokens (charged + count text) := by
    simp only [saturatingAdd]
    omega
  simp only [outcomeOf, hshort, Account.pastHardFloor, Account.admits, decide_eq_true_iff,
    outcomeByTotal, ← hsum]
  rfl

theorem outcomeByTotal_saturatingAdd (hlimit : o.limit < maxNumber)
    (promptTokens charged cost : Nat) (text : Text) :
    outcomeByTotal o (saturatingAdd promptTokens charged)
        (saturatingAdd promptTokens (charged + cost)) text =
      outcomeByTotal o (promptTokens + charged) (promptTokens + (charged + cost)) text := by
  have hfloor : o.limit - o.hardReserve < saturatingAdd promptTokens charged ↔
      o.limit - o.hardReserve < promptTokens + charged := by
    simp only [saturatingAdd]
    omega
  have hsoft : saturatingAdd promptTokens (charged + cost) ≤ o.limit - o.softReserve ↔
      promptTokens + (charged + cost) ≤ o.limit - o.softReserve := by
    simp only [saturatingAdd]
    omega
  simp only [outcomeByTotal, hfloor, hsoft]

end Compression

namespace Assembly

open Compression

variable {o : AssemblyOptions} {count : TokenCounter} {files : List FileChange}
  {promptTokens : Nat}

/-- The visits go from the costliest file down, stop for good at the first file that is skipped,
and every outcome is decided by what the prompt and the visits before it have cost. -/
structure StopsForGood (o : AssemblyOptions) (count : TokenCounter) (promptTokens : Nat)
    (visits : List (PreparedFile × Outcome)) : Prop where
  ordered : visits.Pairwise fun v w => count (w.1.fullText o) ≤ count (v.1.fullText o)
  stopped : ∀ front v back, visits = front ++ v :: back → v.2 = .skipped →
    ∀ w ∈ back, w.2 = .skipped ∨ w.2 = .deleted
  deleted_iff : ∀ v ∈ visits, v.2 = .deleted ↔ v.1.change.additions? v.1.hunks = none
  decided : ∀ front v back, visits = front ++ v :: back →
    ∀ kept, v.1.change.additions? v.1.hunks = some kept →
      let text := Rendering.text o.lineNumbers v.1.change.filename kept
      let charged := visitsCharge count false false front
      v.2 = outcomeByTotal o (saturatingAdd promptTokens charged)
        (saturatingAdd promptTokens (charged + count text)) text
  exact : o.limit < maxNumber → ∀ front v back, visits = front ++ v :: back →
    ∀ kept, v.1.change.additions? v.1.hunks = some kept →
      let text := Rendering.text o.lineNumbers v.1.change.filename kept
      let charged := visitsCharge count false false front
      v.2 = outcomeByTotal o (promptTokens + charged)
        (promptTokens + (charged + count text)) text

theorem visits_map_fst (o : AssemblyOptions) (count : TokenCounter) (files : List FileChange)
    (promptTokens : Nat) :
    (visits o count files promptTokens).map (·.1) = visitedFiles o count files :=
  visitAll_map_fst o count _ _

theorem visitedFiles_ordered (o : AssemblyOptions) (count : TokenCounter)
    (files : List FileChange) :
    (visitedFiles o count files).Pairwise fun p q =>
      count (q.fullText o) ≤ count (p.fullText o) := by
  rw [visitedFiles, ← visitOrder_map_snd, List.pairwise_map]
  refine (visitOrder_ordered o count files).imp fun {a b} hab => ?_
  change fullCost o count b.2 ≤ fullCost o count a.2
  omega

/-- A compressed run visits the prepared files, stops for good where it stops, and tells in its
text and its lists what has become of them. -/
theorem hard_stop_permanent (hprompt : promptTokens ≤ maxNumber)
    (hcompressed : (assemble o count files promptTokens).1.compressed = true) :
    let r := (assemble o count files promptTokens).1
    let vs := visits o count files promptTokens
    (vs.map (·.1)).Perm (readyFiles files) ∧ StopsForGood o count promptTokens vs ∧
      Reports files vs r := by
  intro r vs
  let s : State := { account := .start o promptTokens }
  have hr : r = compressedResult o count files promptTokens := assemble_of_compressed hcompressed
  have houtcome : ∀ {front v back}, vs = front ++ v :: back → v.2 = outcomeOf o count
      ((Account.start o promptTokens).charge (visitsCharge count false false front)) v.1 :=
    fun hsplit => visitAll_outcome (s := s) hprompt hsplit
  have hdecided : ∀ front v back, vs = front ++ v :: back →
      ∀ kept, v.1.change.additions? v.1.hunks = some kept →
        let text := Rendering.text o.lineNumbers v.1.change.filename kept
        let charged := visitsCharge count false false front
        v.2 = outcomeByTotal o (saturatingAdd promptTokens charged)
          (saturatingAdd promptTokens (charged + count text)) text :=
    fun front v back hsplit kept hkept =>
      (houtcome hsplit).trans (outcomeOf_start promptTokens _ hkept)
  refine ⟨?_, ⟨?_, ?_, ?_, hdecided, ?_⟩, ?_⟩
  · rw [visits_map_fst]
    exact visitedFiles_perm o count files
  · have hordered := visitedFiles_ordered o count files
    rwa [← visits_map_fst o count files promptTokens, List.pairwise_map] at hordered
  · intro front v back hsplit hv
    exact visitAll_stopped (s := s) hprompt hsplit hv
  · intro v hv
    obtain ⟨front, back, hsplit⟩ := List.append_of_mem hv
    rw [houtcome hsplit]
    exact outcomeOf_eq_deleted_iff _ v.1
  · intro hlimit front v back hsplit kept hkept
    rw [hdecided front v back hsplit kept hkept]
    exact outcomeByTotal_saturatingAdd hlimit _ _ _ _
  · rw [hr]
    exact compressedResult_reports o count files promptTokens

def Sample.strict : AssemblyOptions := { limit := 80, softReserve := 10, hardReserve := 70 }

/-- The change is shown, its copy is skipped, and the deletion is listed all the same. -/
theorem hard_stop_permanent_of_strict :
    7 ≤ maxNumber ∧
      (assemble Sample.strict List.length Sample.ordered 7).1.compressed = true ∧
      (visits Sample.strict List.length Sample.ordered 7).map (·.2) =
        [.rendered "## a\n\n@@ -1 +1 @@\n-x\n+y\n".toList, .skipped, .deleted] ∧
      StopsForGood Sample.strict List.length 7
        (visits Sample.strict List.length Sample.ordered 7) := by
  have hprompt : 7 ≤ maxNumber := by decide
  have hcompressed :
      (assemble Sample.strict List.length Sample.ordered 7).1.compressed = true := by
    decide +kernel
  have hvisits : visits Sample.strict List.length Sample.ordered 7 =
      (visitAll Sample.strict List.length { account := .start Sample.strict 7 }
        (readyFiles Sample.ordered)).1 := visits_of_ordered (by decide +kernel)
  have houtcomes : (visits Sample.strict List.length Sample.ordered 7).map (·.2) =
      [.rendered "## a\n\n@@ -1 +1 @@\n-x\n+y\n".toList, .skipped, .deleted] := by
    rw [hvisits]
    decide +kernel
  exact ⟨hprompt, hcompressed, houtcomes, (hard_stop_permanent hprompt hcompressed).2.1⟩

end Assembly
end DiffBudget
