import DiffBudget.Proofs.Assembly.Bound

/-!
# When everything fits

A file that only loses lines is listed as deleted in any case, and every other file would be shown
if it were not for the two reserves. Suppose that the prompt, the renderings of these files and the
list of the deleted ones fit below both of them. Then at every visit the total and what is still to
come lie below both, in whatever order the files come. So no file is skipped or listed for want of
tokens, and what is charged in the end is what was to be charged.
-/
namespace DiffBudget

namespace Account

structure Room (a : Account) (needed : Nat) : Prop where
  soft : a.total + needed ≤ a.limit - a.softReserve
  hard : a.total + needed ≤ a.limit - a.hardReserve

variable {a : Account} {n needed rest : Nat}

theorem Room.not_pastHardFloor (h : a.Room needed) : a.pastHardFloor = false := by
  have hhard := h.hard
  exact decide_eq_false (by omega)

theorem Room.admits (h : a.Room needed) (hn : n ≤ needed) : a.admits n = true := by
  have hsoft := h.soft
  have hsum : saturatingAdd a.total n ≤ a.total + n := Nat.min_le_left _ _
  exact decide_eq_true (by omega)

theorem Room.charge (h : a.Room (n + rest)) : (a.charge n).Room rest := by
  have hcharge := a.charge_total_le_add n
  have hsoft := h.soft
  have hhard := h.hard
  constructor
  · rw [charge_limit, charge_softReserve]
    omega
  · rw [charge_limit, charge_hardReserve]
    omega

end Account

namespace Compression

variable {o : AssemblyOptions} {count : TokenCounter}

/-- What becomes of a file when there are tokens enough. -/
def unhindered (o : AssemblyOptions) (p : PreparedFile) : Outcome :=
  match shortText? o p with
  | some text => .rendered text
  | none => .deleted

def unhinderedVisits (o : AssemblyOptions) (ps : List PreparedFile) :
    List (PreparedFile × Outcome) := ps.map fun p => (p, unhindered o p)

def shortTexts (o : AssemblyOptions) (ps : List PreparedFile) : List Text :=
  ps.filterMap (shortText? o)

def goneNames (ps : List PreparedFile) : List Text :=
  (ps.filter fun p => (p.change.additions? p.hunks).isNone).map (·.change.filename)

def shortCost (o : AssemblyOptions) (count : TokenCounter) (begun : Bool)
    (ps : List PreparedFile) : Nat :=
  sumOf count (shortTexts o ps) + namesCharge count deletedHeading begun (goneNames ps)

theorem isNone_additions?_of_text {p : PreparedFile} {text : Text}
    (h : shortText? o p = some text) : (p.change.additions? p.hunks).isNone = false := by
  obtain ⟨kept, hkept, -⟩ := Option.map_eq_some_iff.mp h
  rw [hkept]
  rfl

theorem isNone_additions?_of_none {p : PreparedFile} (h : shortText? o p = none) :
    (p.change.additions? p.hunks).isNone = true := by
  rw [Option.isNone_iff_eq_none]
  exact Option.map_eq_none_iff.mp h

theorem shortCost_cons_of_text {p : PreparedFile} {text : Text} (h : shortText? o p = some text)
    (begun : Bool) (ps : List PreparedFile) :
    shortCost o count begun (p :: ps) = count text + shortCost o count begun ps := by
  have htexts : shortTexts o (p :: ps) = text :: shortTexts o ps := List.filterMap_cons_some h
  have hnames : goneNames (p :: ps) = goneNames ps := by
    simp [goneNames, isNone_additions?_of_text h]
  rw [shortCost, shortCost, htexts, hnames, sumOf_cons, Nat.add_assoc]

theorem shortCost_cons_of_none {p : PreparedFile} (h : shortText? o p = none) (begun : Bool)
    (ps : List PreparedFile) :
    shortCost o count begun (p :: ps) =
      listCharge count deletedHeading p.change.filename begun + shortCost o count true ps := by
  have htexts : shortTexts o (p :: ps) = shortTexts o ps := List.filterMap_cons_none h
  have hnames : goneNames (p :: ps) = p.change.filename :: goneNames ps := by
    simp [goneNames, isNone_additions?_of_none h]
  rw [shortCost, shortCost, htexts, hnames, namesCharge_cons]
  omega

theorem namesCharge_perm {names others : List Text} (h : names.Perm others)
    (count : TokenCounter) (heading : Text) (begun : Bool) :
    namesCharge count heading begun names = namesCharge count heading begun others := by
  rw [namesCharge, namesCharge, h.isEmpty_eq, sumOf_perm _ h]

theorem shortCost_perm {ps qs : List PreparedFile} (h : ps.Perm qs) (o : AssemblyOptions)
    (count : TokenCounter) (begun : Bool) :
    shortCost o count begun ps = shortCost o count begun qs := by
  have htexts : (shortTexts o ps).Perm (shortTexts o qs) := h.filterMap _
  have hnames : (goneNames ps).Perm (goneNames qs) := (h.filter _).map _
  rw [shortCost, shortCost, sumOf_perm count htexts, namesCharge_perm hnames]

theorem unhinderedVisits_cons (p : PreparedFile) (ps : List PreparedFile) :
    unhinderedVisits o (p :: ps) = (p, unhindered o p) :: unhinderedVisits o ps := rfl

theorem bodies_unhinderedVisits (o : AssemblyOptions) (ps : List PreparedFile) :
    bodies (unhinderedVisits o ps) = shortTexts o ps := by
  induction ps with
  | nil => rfl
  | cons p ps ih =>
    rw [unhinderedVisits_cons, bodies_cons, ih, unhindered]
    cases h : shortText? o p with
    | none => simp [shortTexts, h]
    | some text => simp [shortTexts, h]

theorem deleted_unhinderedVisits (o : AssemblyOptions) (ps : List PreparedFile) :
    namesOf .deleted (unhinderedVisits o ps) = goneNames ps := by
  induction ps with
  | nil => rfl
  | cons p ps ih =>
    rw [unhinderedVisits_cons, namesOf_cons, ih, unhindered]
    cases h : shortText? o p with
    | none => simp [goneNames, isNone_additions?_of_none h]
    | some text => simp [goneNames, isNone_additions?_of_text h]

theorem namesOf_unhinderedVisits {outcome : Outcome} (h : ∀ p, unhindered o p ≠ outcome)
    (ps : List PreparedFile) : namesOf outcome (unhinderedVisits o ps) = [] := by
  induction ps with
  | nil => rfl
  | cons p ps ih => rw [unhinderedVisits_cons, namesOf_cons, ih, if_neg (h p), List.nil_append]

theorem unhindered_ne (o : AssemblyOptions) (p : PreparedFile) :
    unhindered o p ≠ .summarized ∧ unhindered o p ≠ .skipped := by
  rw [unhindered]
  cases shortText? o p with
  | none => exact ⟨by simp, by simp⟩
  | some text => exact ⟨by simp, by simp⟩

theorem visitsCharge_unhinderedVisits (o : AssemblyOptions) (count : TokenCounter)
    (modifiedBegun deletedBegun : Bool) (ps : List PreparedFile) :
    visitsCharge count modifiedBegun deletedBegun (unhinderedVisits o ps) =
      shortCost o count deletedBegun ps := by
  rw [visitsCharge, bodies_unhinderedVisits, deleted_unhinderedVisits,
    namesOf_unhinderedVisits fun p => (unhindered_ne o p).1, namesCharge_nil, shortCost,
    Nat.add_zero]

theorem visit_of_room {s : State} {p : PreparedFile} {ps : List PreparedFile}
    (h : s.account.Room (shortCost o count s.deletedBegun (p :: ps))) :
    (visit o count s p).1 = unhindered o p ∧
      (visit o count s p).2.account.Room
        (shortCost o count (visit o count s p).2.deletedBegun ps) := by
  rcases visit_cases o count s p with
    ⟨htext, hv⟩ | ⟨text, htext, ⟨hpast, -⟩ | ⟨-, -, hv⟩ | ⟨-, hadmits, -⟩⟩
  · rw [shortCost_cons_of_none htext] at h
    rw [hv, unhindered, htext, list_eq]
    exact ⟨rfl, h.charge⟩
  · -- room below the hard reserve rules out a skip, room below the soft one a listing
    rw [h.not_pastHardFloor] at hpast
    cases hpast
  · rw [shortCost_cons_of_text htext] at h
    rw [hv, unhindered, htext]
    exact ⟨rfl, h.charge⟩
  · rw [shortCost_cons_of_text htext] at h
    rw [h.admits (Nat.le_add_right _ _)] at hadmits
    cases hadmits

theorem visitAll_of_room {s : State} {ps : List PreparedFile}
    (h : s.account.Room (shortCost o count s.deletedBegun ps)) :
    (visitAll o count s ps).1 = unhinderedVisits o ps := by
  induction ps generalizing s with
  | nil => rfl
  | cons p ps ih =>
    obtain ⟨houtcome, hroom⟩ := visit_of_room h
    simp only [visitAll]
    rw [houtcome, ih hroom, unhinderedVisits_cons]

end Compression

namespace Assembly

open Compression

variable {o : AssemblyOptions} {count : TokenCounter} {files : List FileChange}
  {promptTokens : Nat}

/-- The prompt, the renderings of all files that can be shown and the list of the others. -/
def shortTotal (o : AssemblyOptions) (count : TokenCounter) (files : List FileChange)
    (promptTokens : Nat) : Nat :=
  promptTokens + (sumOf count (shortTexts o (readyFiles files)) +
    namesCost count deletedHeading (goneNames (readyFiles files)))

theorem shortTotal_eq (h : shortTotal o count files promptTokens ≤ maxNumber) :
    shortTotal o count files promptTokens =
      promptTokens + shortCost o count false (readyFiles files) := by
  rw [shortTotal] at h
  rw [shortTotal, shortCost, namesCharge_eq (by omega)]

structure NothingDropped (o : AssemblyOptions) (count : TokenCounter) (files : List FileChange)
    (promptTokens : Nat) (r : Assembled) : Prop where
  shown : ∀ p ∈ readyFiles files, ∀ text, shortText? o p = some text →
    (p, .rendered text) ∈ visits o count files promptTokens
  text : r.text = Text.joinLines (shortTexts o (visitedFiles o count files)) ++
    printedList "Deleted files:\n".toList (goneNames (visitedFiles o count files))
  summarized : r.summarized = []
  skipped : r.skipped = failingNames files
  deleted : r.deleted = goneNames (visitedFiles o count files)
  total : r.totalTokens = shortTotal o count files promptTokens

/-- A compressed run drops nothing if all that can be shown fits below both reserves. -/
theorem nothing_dropped_when_all_fits (hlimit : o.limit ≤ maxNumber)
    (hcompressed : (assemble o count files promptTokens).1.compressed = true)
    (hsoft : shortTotal o count files promptTokens ≤ o.limit - o.softReserve)
    (hhard : shortTotal o count files promptTokens ≤ o.limit - o.hardReserve) :
    NothingDropped o count files promptTokens (assemble o count files promptTokens).1 := by
  -- what is needed is the same in every order, so that of the visits does not matter
  have hcost : shortCost o count false (visitedFiles o count files) =
      shortCost o count false (readyFiles files) :=
    shortCost_perm (visitedFiles_perm o count files) o count false
  have hfits : shortTotal o count files promptTokens ≤ maxNumber := by omega
  have htotal := shortTotal_eq hfits
  have hroom : (Account.start o promptTokens).Room
      (shortCost o count false (visitedFiles o count files)) := by
    rw [hcost]
    exact ⟨htotal ▸ hsoft, htotal ▸ hhard⟩
  have hvisits : visits o count files promptTokens =
      unhinderedVisits o (visitedFiles o count files) :=
    visitAll_of_room (s := { account := .start o promptTokens }) hroom
  have hprompt : promptTokens ≤ maxNumber := by omega
  have hsummarized : namesOf .summarized (visits o count files promptTokens) = [] := by
    rw [hvisits, namesOf_unhinderedVisits fun p => (unhindered_ne o p).1]
  have hskipped : namesOf .skipped (visits o count files promptTokens) = [] := by
    rw [hvisits, namesOf_unhinderedVisits fun p => (unhindered_ne o p).2]
  have hdeleted : namesOf .deleted (visits o count files promptTokens) =
      goneNames (visitedFiles o count files) := by
    rw [hvisits, deleted_unhinderedVisits]
  rw [assemble_of_compressed hcompressed]
  constructor
  case shown =>
    intro p hp text htext
    have hvisited : p ∈ visitedFiles o count files :=
      (visitedFiles_perm o count files).mem_iff.mpr hp
    have houtcome : unhindered o p = .rendered text := by rw [unhindered, htext]
    rw [hvisits, ← houtcome]
    exact List.mem_map_of_mem (f := fun p => (p, unhindered o p)) hvisited
  case text =>
    rw [compressedResult_text, Compression.text, hsummarized, hdeleted, hvisits,
      bodies_unhinderedVisits, listing_eq, listing_eq, printedList, if_pos rfl, List.append_nil]
    rfl
  case summarized => rw [compressedResult_summarized, hsummarized]
  case skipped => rw [compressedResult_skipped, hskipped, List.append_nil, faultyNames_eq]
  case deleted => rw [compressedResult_deleted, hdeleted]
  case total =>
    rw [compressedResult_totalTokens hprompt, hvisits, visitsCharge_unhinderedVisits, hcost,
      saturatingAdd_of_le (by omega), htotal]

def Sample.fitting : List FileChange :=
  [{ filename := "a".toList, kind := .modified, patch := "@@ -1 +1 @@\n-x\n+y".toList },
    { filename := "b".toList, kind := .modified, patch := "@@ -1 +0,0 @@\n-x".toList },
    { filename := "c".toList, kind := .modified, patch := "@@ bad".toList }]

/-- All that can be shown takes the last token in front of the soft reserve. -/
theorem nothing_dropped_of_fitting :
    Sample.options.limit ≤ maxNumber ∧
      (assemble Sample.options List.length Sample.fitting 9).1.compressed = true ∧
      shortTotal Sample.options List.length Sample.fitting 9 =
        Sample.options.limit - Sample.options.softReserve ∧
      shortTotal Sample.options List.length Sample.fitting 9 ≤
        Sample.options.limit - Sample.options.hardReserve ∧
      NothingDropped Sample.options List.length Sample.fitting 9
        (assemble Sample.options List.length Sample.fitting 9).1 := by
  have hlimit : Sample.options.limit ≤ maxNumber := by decide
  have hcompressed :
      (assemble Sample.options List.length Sample.fitting 9).1.compressed = true := by
    decide +kernel
  have hsoft : shortTotal Sample.options List.length Sample.fitting 9 =
      Sample.options.limit - Sample.options.softReserve := by
    decide +kernel
  have hhard : shortTotal Sample.options List.length Sample.fitting 9 ≤
      Sample.options.limit - Sample.options.hardReserve := by
    rw [hsoft]
    decide
  exact ⟨hlimit, hcompressed, hsoft, hhard,
    nothing_dropped_when_all_fits hlimit hcompressed (Nat.le_of_eq hsoft) hhard⟩

end Assembly
end DiffBudget
