import DiffBudget.Assembly.Shared
import DiffBudget.Proofs.Assembly.Bound

/-!
# What a run reads of a file

A run reads three things of a prepared file: its name, its rendering with context, and the
rendering of the hunks that add lines, if it has any left to show. Files that look alike in these
have the same cost, so they take the same place in the order of the visits, and every visit decides
and charges alike.
-/
namespace DiffBudget

structure Appearance where
  filename : Text
  fullText : Text
  shortText? : Option Text

def PreparedFile.appearance (o : AssemblyOptions) (p : PreparedFile) : Appearance :=
  ⟨p.change.filename, p.fullText o, Compression.shortText? o p⟩

namespace Compression

variable {o : AssemblyOptions} {count : TokenCounter}

def told (v : PreparedFile × Outcome) : Text × Outcome := (v.1.change.filename, v.2)

theorem namesOf_eq_told (outcome : Outcome) (visits : List (PreparedFile × Outcome)) :
    namesOf outcome visits = ((visits.map told).filter (·.2 == outcome)).map (·.1) := by
  rw [List.filter_map, List.map_map]
  rfl

theorem bodies_eq_told (visits : List (PreparedFile × Outcome)) :
    bodies visits = (visits.map told).filterMap fun
      | (_, .rendered text) => some text
      | _ => none := by
  induction visits with
  | nil => rfl
  | cons v visits ih =>
    obtain ⟨p, outcome⟩ := v
    rw [bodies_cons, ih]
    cases outcome <;> simp [told]

theorem text_of_told {visits others : List (PreparedFile × Outcome)}
    (h : visits.map told = others.map told) : text visits = text others := by
  simp only [text, bodies_eq_told, namesOf_eq_told, h]

theorem visit_of_appearance {p q : PreparedFile} (h : p.appearance o = q.appearance o)
    (s : State) : visit o count s p = visit o count s q := by
  obtain ⟨hname, -, hshort⟩ := Appearance.mk.inj h
  rw [visit, visit, hshort, hname]

theorem visitAll_of_appearances {ps qs : List PreparedFile}
    (h : ps.map (·.appearance o) = qs.map (·.appearance o)) (count : TokenCounter) (s : State) :
    (visitAll o count s ps).1.map told = (visitAll o count s qs).1.map told ∧
      (visitAll o count s ps).2 = (visitAll o count s qs).2 := by
  induction ps generalizing qs s with
  | nil =>
    rw [List.map_eq_nil_iff.mp h.symm]
    exact ⟨rfl, rfl⟩
  | cons p ps ih =>
    cases qs with
    | nil => simp at h
    | cons q qs =>
      obtain ⟨hfirst, hrest⟩ := List.cons.inj h
      have hname : p.change.filename = q.change.filename := congrArg Appearance.filename hfirst
      obtain ⟨hvisits, hstate⟩ := ih hrest (visit o count s q).2
      simp only [visitAll, visit_of_appearance hfirst, List.map_cons, hvisits, hstate, told, hname,
        and_self]

end Compression

namespace Assembly

open Compression

variable {o : AssemblyOptions} {count : TokenCounter} {files others : List FileChange}

def appearances (o : AssemblyOptions) (files : List FileChange) : List Appearance :=
  (readyFiles files).map (·.appearance o)

theorem fullTexts_eq (o : AssemblyOptions) (files : List FileChange) :
    (readyFiles files).map (·.fullText o) = (appearances o files).map (·.fullText) := by
  rw [appearances, List.map_map]
  rfl

theorem costs_eq (o : AssemblyOptions) (count : TokenCounter) (files : List FileChange) :
    (measuredFiles o count files).map (·.cost) =
      (appearances o files).map fun a => count a.fullText := by
  rw [measuredFiles, appearances, List.map_map, List.map_map]
  rfl

theorem visitedFiles_appearances (o : AssemblyOptions) (count : TokenCounter)
    (files : List FileChange) :
    (visitedFiles o count files).map (·.appearance o) =
      (appearances o files).mergeSort fun a b => count b.fullText ≤ count a.fullText := by
  have hlook : (measuredFiles o count files).map (·.file.appearance o) = appearances o files := by
    rw [measuredFiles, appearances, List.map_map]
    rfl
  have hcost : ∀ m ∈ measuredFiles o count files, m.cost = count (m.file.fullText o) := by
    intro m hm
    obtain ⟨p, -, rfl⟩ := List.mem_map.mp hm
    rfl
  rw [← hlook, visitedFiles, largestFirst, List.map_map]
  apply List.map_mergeSort
  intro a ha b hb
  rw [hcost a ha, hcost b hb]
  rfl

theorem compressedResult_eq (o : AssemblyOptions) (count : TokenCounter)
    (files : List FileChange) (promptTokens : Nat) :
    compressedResult o count files promptTokens = ofVisits (faultyNames files)
      (visitAll o count { account := .start o promptTokens } (visitedFiles o count files)) := rfl

theorem ofVisits_of_told {run other : List (PreparedFile × Outcome) × State}
    (hvisits : run.1.map told = other.1.map told) (hstate : run.2 = other.2)
    (faulty : List Text) : ofVisits faulty run = ofVisits faulty other := by
  simp only [ofVisits, text_of_told hvisits, namesOf_eq_told, hvisits, hstate]

/-- Lists whose prepared files look alike and whose failing files have the same names have the same
result. -/
theorem result_of_appearances (h : appearances o files = appearances o others)
    (hfaulty : faultyNames files = faultyNames others) (count : TokenCounter)
    (promptTokens : Nat) :
    result o count files promptTokens = result o count others promptTokens := by
  have haccount : fullAccount o count files promptTokens =
      fullAccount o count others promptTokens := by
    rw [fullAccount, fullAccount, costs_eq, costs_eq, h]
  have horder : (visitedFiles o count files).map (·.appearance o) =
      (visitedFiles o count others).map (·.appearance o) := by
    rw [visitedFiles_appearances, visitedFiles_appearances, h]
  have hfull : fullResult o count files promptTokens = fullResult o count others promptTokens := by
    rw [fullResult, fullResult, haccount, fullTexts_eq, fullTexts_eq, h, hfaulty]
  have hcompressed : compressedResult o count files promptTokens =
      compressedResult o count others promptTokens := by
    obtain ⟨hvisits, hstate⟩ :=
      visitAll_of_appearances horder count { account := .start o promptTokens }
    rw [compressedResult_eq, compressedResult_eq, hfaulty]
    exact ofVisits_of_told hvisits hstate _
  rw [result, result, haccount, hfull, hcompressed]

end Assembly
end DiffBudget
