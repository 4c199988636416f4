import DiffBudget.Proofs.Assembly.Appearance
import DiffBudget.Proofs.Assembly.Readiness
import Mathlib.Data.List.Forall2

/-!
# Where contents matter

The contents of a file with a patch are looked at for three things: whether they are text, which
lines surround the hunks, and whether nothing is left of a file that was not added. Text that no
hunk is widened with, of a file that is not known to be emptied, can be forgotten.
-/
namespace DiffBudget

namespace FileChange

def withoutContents (f : FileChange) : FileChange := { f with old := none, new := none }

/-- The contents do not decide whether the file is shown by its name alone. -/
def Forgettable (f : FileChange) : Prop :=
  f.kind = .added ∨ f.kind = .deleted ∨ f.newIsEmpty = false

/-- The second file is the first, or the first without contents that may be forgotten. -/
def Forgets (f g : FileChange) : Prop := g = f ∨ f.Forgettable ∧ g = f.withoutContents

/-- What is known of the file is text, it has a patch, and its hunks are not widened. -/
structure Narrow (o : AssemblyOptions) (f : FileChange) : Prop where
  text : ¬f.NotText
  patch : f.patchIsBlank = false
  context : o.contextBefore = 0 ∧ o.contextAfter = 0 ∨ o.widens f.filename = false

variable {o : AssemblyOptions} {f g : FileChange}

instance : Decidable f.Forgettable := inferInstanceAs (Decidable (_ ∨ _ ∨ _))

instance : Decidable (f.Forgets g) := inferInstanceAs (Decidable (_ ∨ _ ∧ _))

theorem notText_iff : f.NotText ↔
    f.old.any (Utf8.decode? · == none) = true ∨ f.new.any (Utf8.decode? · == none) = true := by
  simp only [Option.any_eq_true, beq_iff_eq]
  constructor
  · rintro ⟨side, bytes, hbytes, htext⟩
    cases side with
    | old => exact .inl ⟨bytes, hbytes, htext⟩
    | new => exact .inr ⟨bytes, hbytes, htext⟩
  · rintro (⟨bytes, hbytes, htext⟩ | ⟨bytes, hbytes, htext⟩)
    · exact ⟨.old, bytes, hbytes, htext⟩
    · exact ⟨.new, bytes, hbytes, htext⟩

instance : Decidable f.NotText := decidable_of_iff _ notText_iff.symm

instance : Decidable (f.Narrow o) :=
  decidable_of_iff (_ ∧ _ ∧ _) ⟨fun h => ⟨h.1, h.2.1, h.2.2⟩, fun h => ⟨h.text, h.patch, h.context⟩⟩

theorem isGone_withoutContents (h : f.Forgettable) : f.withoutContents.isGone = f.isGone := by
  have hunknown : f.withoutContents.newIsEmpty = false := rfl
  have hkind : f.withoutContents.kind = f.kind := rfl
  rw [isGone, isGone, hunknown, hkind]
  rcases h with h | h | h <;> simp [h]

theorem Forgets.filename (h : f.Forgets g) : g.filename = f.filename := by
  rcases h with rfl | ⟨-, rfl⟩ <;> rfl

theorem Forgets.patch (h : f.Forgets g) : g.patch = f.patch := by
  rcases h with rfl | ⟨-, rfl⟩ <;> rfl

theorem Forgets.tokenCount (h : f.Forgets g) : g.tokenCount = f.tokenCount := by
  rcases h with rfl | ⟨-, rfl⟩ <;> rfl

theorem Forgets.isGone (h : f.Forgets g) : g.isGone = f.isGone := by
  rcases h with rfl | ⟨hforgettable, rfl⟩
  · rfl
  · exact isGone_withoutContents hforgettable

theorem not_notText_withoutContents (f : FileChange) : ¬f.withoutContents.NotText := by
  rw [notText_iff]
  simp [withoutContents]

theorem Forgets.narrow (h : f.Forgets g) (hf : f.Narrow o) : g.Narrow o := by
  rcases h with rfl | ⟨-, rfl⟩
  · exact hf
  · exact ⟨not_notText_withoutContents f, hf.patch, hf.context⟩

theorem contentText_of_text (h : ¬f.NotText) (side : ContentSide) :
    ∃ t, f.contentText side = .ok t := by
  rcases contentText_cases f side with htext | ⟨-, hnot⟩
  · exact htext
  · exact absurd ⟨side, hnot⟩ h

theorem prepare_of_patch (htext : ¬f.NotText) (hpatch : f.patchIsBlank = false) :
    ∃ oldLines, f.prepare = match Patch.parse f.patch with
      | .ok hunks => .ready ⟨f, hunks, oldLines⟩
      | .error e => .faulty e := by
  obtain ⟨old, hold⟩ := contentText_of_text htext .old
  obtain ⟨new, hnew⟩ := contentText_of_text htext .new
  have hread : f.patchText old new = some f.patch := by
    rw [patchText, hpatch]
    rfl
  exact ⟨old.map Text.lines, prepare_of_reads hold hnew hread⟩

theorem appearance_of_narrow (h : f.Narrow o) (hunks : List Hunk)
    (oldLines : Option (List Text)) :
    PreparedFile.appearance o ⟨f, hunks, oldLines⟩ =
      ⟨f.filename, Rendering.text o.lineNumbers f.filename hunks,
        (f.additions? hunks).map (Rendering.text o.lineNumbers f.filename)⟩ := by
  have hwidened : PreparedFile.widened o ⟨f, hunks, oldLines⟩ = hunks := by
    cases oldLines with
    | none => rfl
    | some oldLines =>
      rcases h.context with ⟨hbefore, hafter⟩ | hname
      · simp [PreparedFile.widened, hbefore, hafter]
      · simp [PreparedFile.widened, hname]
  rw [PreparedFile.appearance, PreparedFile.fullText, hwidened]
  rfl

theorem Forgets.additions? (h : f.Forgets g) (hunks : List Hunk) :
    g.additions? hunks = f.additions? hunks := by
  rw [FileChange.additions?, FileChange.additions?, h.isGone]

theorem Forgets.appearance (h : f.Forgets g) (hf : f.Narrow o) :
    g.prepare.ready?.map (·.appearance o) = f.prepare.ready?.map (·.appearance o) ∧
      g.prepare.isFaulty = f.prepare.isFaulty := by
  have hg := h.narrow hf
  obtain ⟨oldLines, hprepare⟩ := prepare_of_patch hf.text hf.patch
  obtain ⟨otherLines, hother⟩ := prepare_of_patch hg.text hg.patch
  rw [hprepare, hother, h.patch]
  cases Patch.parse f.patch with
  | error e => exact ⟨rfl, rfl⟩
  | ok hunks =>
    refine ⟨?_, rfl⟩
    simp only [Preparation.ready?, Option.map_some, appearance_of_narrow hf,
      appearance_of_narrow hg, h.filename, h.additions?]

end FileChange

namespace Assembly

variable {o : AssemblyOptions} {count : TokenCounter} {files others : List FileChange}

open FileChange (Forgets Narrow)

theorem map_of_forgets {α : Type} {see : FileChange → α}
    (hsee : ∀ f g, f.Narrow o → f.Forgets g → see g = see f)
    (hnarrow : ∀ f ∈ files, f.Narrow o) (h : List.Forall₂ Forgets files others) :
    others.map see = files.map see := by
  induction h with
  | nil => rfl
  | cons hfirst hrest ih =>
    obtain ⟨hf, hfiles⟩ := List.forall_mem_cons.mp hnarrow
    rw [List.map_cons, List.map_cons, hsee _ _ hf hfirst, ih hfiles]

theorem appearances_eq_filterMap (o : AssemblyOptions) (files : List FileChange) :
    appearances o files =
      (files.map fun f => f.prepare.ready?.map (·.appearance o)).filterMap id := by
  rw [appearances, readyFiles, List.map_filterMap, List.filterMap_map]
  rfl

theorem faultyNames_eq_map (files : List FileChange) :
    faultyNames files =
      ((files.map fun f => (f.filename, f.prepare.isFaulty)).filter (·.2)).map (·.1) := by
  rw [faultyNames, List.filter_map, List.map_map]
  rfl

theorem tokenCount_recordCost (o : AssemblyOptions) (count : TokenCounter) (f : FileChange) :
    (recordCost o count f).tokenCount =
      ((f.prepare.ready?.map (·.appearance o)).map fun a => count a.fullText).or f.tokenCount := by
  rw [recordCost]
  cases f.prepare <;> rfl

/-- Where no hunk is widened, forgetting contents that do not decide how a file is shown changes
neither the result nor the cost of any file. -/
theorem contents_can_be_forgotten (o : AssemblyOptions) (count : TokenCounter)
    (promptTokens : Nat) (hnarrow : ∀ f ∈ files, f.Narrow o)
    (h : List.Forall₂ Forgets files others) :
    let known := assemble o count files promptTokens
    let forgotten := assemble o count others promptTokens
    forgotten.1 = known.1 ∧ forgotten.2.map (·.tokenCount) = known.2.map (·.tokenCount) := by
  intro known forgotten
  have hlook : others.map (fun f => f.prepare.ready?.map (·.appearance o)) =
      files.map fun f => f.prepare.ready?.map (·.appearance o) :=
    map_of_forgets (fun f g hf hfg => (hfg.appearance hf).1) hnarrow h
  have hnamed : others.map (fun f => (f.filename, f.prepare.isFaulty)) =
      files.map fun f => (f.filename, f.prepare.isFaulty) := by
    apply map_of_forgets _ hnarrow h
    intro f g hf hfg
    rw [hfg.filename, (hfg.appearance hf).2]
  have hcost : others.map (fun f => (recordCost o count f).tokenCount) =
      files.map fun f => (recordCost o count f).tokenCount := by
    apply map_of_forgets _ hnarrow h
    intro f g hf hfg
    rw [tokenCount_recordCost, tokenCount_recordCost, (hfg.appearance hf).1, hfg.tokenCount]
  have happearances : appearances o others = appearances o files := by
    rw [appearances_eq_filterMap, appearances_eq_filterMap, hlook]
  have hfaulty : faultyNames others = faultyNames files := by
    rw [faultyNames_eq_map, faultyNames_eq_map, hnamed]
  refine ⟨result_of_appearances happearances hfaulty count promptTokens, ?_⟩
  calc
    forgotten.2.map (·.tokenCount) = others.map fun f => (recordCost o count f).tokenCount :=
      List.map_map
    _ = files.map fun f => (recordCost o count f).tokenCount := hcost
    _ = known.2.map (·.tokenCount) := List.map_map.symm

def Sample.contents : List FileChange :=
  [{ filename := "a.x".toList, kind := .modified, patch := "@@ -2 +2 @@\n-y\n+z".toList
     old := some (Utf8.encode "x\ny\n".toList), new := some (Utf8.encode "x\nz\n".toList) },
    { filename := "b.x".toList, kind := .modified, patch := "@@ -1 +1 @@\n-x\n+y".toList
      old := some (Utf8.encode "x\n".toList), new := some [] },
    { filename := "c.x".toList, kind := .deleted, patch := "@@ -1 +0,0 @@\n-x".toList
      old := some (Utf8.encode "x\n".toList), new := some [] },
    { filename := "d.x".toList, kind := .renamed, patch := "@@ bad".toList
      new := some (Utf8.encode "x\n".toList), tokenCount := some 9 }]

def Sample.forgotten : List FileChange :=
  Sample.contents.map fun f => if f.Forgettable then f.withoutContents else f

theorem contents_can_be_forgotten_of_sample :
    let o := { Sample.options with noExtendSuffixes := [".x".toList] }
    (∀ f ∈ Sample.contents, f.Narrow o) ∧
      List.Forall₂ Forgets Sample.contents Sample.forgotten ∧
      (assemble o List.length Sample.contents 7).1.compressed = true ∧
      (assemble o List.length Sample.forgotten 7).1 =
        (assemble o List.length Sample.contents 7).1 := by
  intro o
  have hnarrow : ∀ f ∈ Sample.contents, f.Narrow o := by decide +kernel
  have hforgets : List.Forall₂ Forgets Sample.contents Sample.forgotten := by decide +kernel
  exact ⟨hnarrow, hforgets, by decide +kernel,
    (contents_can_be_forgotten o List.length 7 hnarrow hforgets).1⟩

end Assembly
end DiffBudget
