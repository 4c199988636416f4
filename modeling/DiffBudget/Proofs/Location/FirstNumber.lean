import DiffBudget.Proofs.Hunk.Widening
import DiffBudget.Proofs.Location.Preamble

/-!
# The base of the line numbers

The numbered layout and the search count the lines of the new version from the start in the
header. Widening counts from the first line of the new range, which is never 0. The two are the
same for a range of some lines unless its header gives the start 0: then the lines have smaller
numbers than after widening, and the first one has the number 0.
-/
namespace DiffBudget

open Patch (IsSource)

theorem BodyLine.filter_inNew_eq_nil {ls : List BodyLine} (h : ∀ l ∈ ls, l.inNew = false) :
    ls.filter (·.inNew) = [] :=
  List.filter_eq_nil_iff.mpr fun l hl => by simp [h l hl]

namespace Hunk

variable {h : Hunk} {front back : List BodyLine} {l : BodyLine}

theorem newStart_eq_newFirst_iff (hcount : h.newCount ≠ 0) :
    h.newStart = h.newFirst ↔ h.newStart ≠ 0 := by
  rw [newFirst, firstLine, if_neg hcount]
  omega

/-- What the numbered layout prints behind the hunks before `h` begins with the header of `h` and
one entry, of the line `l` under the number `n`. -/
def PrintsFirst (hunks before : List Hunk) (h : Hunk) (l : BodyLine) (n : Nat) : Prop :=
  ∀ filename, ∃ later, Rendering.numbered filename hunks =
    Rendering.numbered filename before ++ '\n' :: h.header ++ "\n__new hunk__\n".toList ++
      Rendering.entry n l ++ later

theorem printsFirst (hbody : h.body = front ++ l :: back)
    (hfront : ∀ m ∈ front, m.inNew = false) (hl : l.inNew = true) (before after : List Hunk) :
    PrintsFirst (before ++ h :: after) before h l h.newStart := by
  intro filename
  obtain ⟨earlier, later, hearlier, htext⟩ := Rendering.printsNumber hbody hl before after filename
  rw [BodyLine.filter_inNew_eq_nil hfront] at hearlier htext
  rw [List.map_eq_nil_iff.mp hearlier, List.flatMap_nil, List.append_nil] at htext
  exact ⟨later, htext⟩

end Hunk

namespace Location

variable {ls : List Text} {hunks : List Hunk} {loc : Location} {h : Hunk}
  {front back : List BodyLine} {l : BodyLine}

theorem line_of_isNumbered (hnumbered : IsNumbered ls hunks loc)
    (hsource : IsSource ls hunks loc.position h front l)
    (hfront : ∀ m ∈ front, m.inNew = false) : loc.line = h.newStart := by
  obtain ⟨g, before, m, hother, hline⟩ := hnumbered.isSource
  obtain ⟨rfl, rfl, rfl⟩ := hsource.unique hother
  rw [hline, BodyLine.filter_inNew_eq_nil hfront]
  rfl

/-- The first new line of a hunk is printed and located under the start in the header. Widening
counts from the first line of the new range, which is this start exactly when it is not 0. -/
theorem counted_from_start {f : FileChange} (hparse : Patch.parse f.patch = .ok hunks)
    (hh : h ∈ hunks) (hcount : h.newCount ≠ 0) (hbody : h.body = front ++ l :: back)
    (hfront : ∀ m ∈ front, m.inNew = false) (hl : l.inNew = true) :
    (∀ before after, hunks = before ++ h :: after →
        Hunk.PrintsFirst hunks before h l h.newStart) ∧
      (∃ position, IsSource f.patch.lines hunks position h front l) ∧
      (∀ files filename quote close loc,
        files.find? (fun f => f.filename.trim == filename) = some f →
        findBy? close files filename quote = some loc →
        IsSource f.patch.lines hunks loc.position h front l → loc.line = h.newStart) ∧
      (∀ oldLines before after rest,
        (Hunk.coverGroup oldLines before after h rest).newFirst =
          max (h.newFirst - h.lead oldLines.length before) 1) ∧
      (h.newStart = h.newFirst ↔ h.newStart ≠ 0) := by
  refine ⟨?_, Patch.exists_isSource hparse hh hbody, ?_,
    fun oldLines before after rest => Hunk.coverGroup_newFirst oldLines before after h rest,
    Hunk.newStart_eq_newFirst_iff hcount⟩
  · rintro before after rfl
    exact Hunk.printsFirst hbody hfront hl before after
  intro files filename quote close loc hfile hfound hsource
  rw [findBy?, hfile, Option.bind_some] at hfound
  have hnumbered := isNumbered_iff (Patch.not_malformed_of_parse hparse) hfound hparse
  exact line_of_isNumbered (hnumbered.mpr hsource.preamble_le) hsource hfront

theorem counted_from_start_of_quoted :
    Patch.parse Sample.quoted.patch = .ok [Sample.quotedHunk] ∧
      find? [Sample.quoted] "f".toList "new".toList = some ⟨2, 5⟩ ∧
      IsSource Sample.quoted.patch.lines [Sample.quotedHunk] 2 Sample.quotedHunk
        [⟨.removed, "old".toList⟩] ⟨.added, "new".toList⟩ ∧
      Hunk.PrintsFirst [Sample.quotedHunk] [] Sample.quotedHunk ⟨.added, "new".toList⟩ 5 ∧
      Sample.quotedHunk.newFirst = 5 := by
  have hparse : Patch.parse Sample.quoted.patch = .ok [Sample.quotedHunk] := by decide +kernel
  have hfile : [Sample.quoted].find? (fun f => f.filename.trim == "f".toList) =
      some Sample.quoted := by decide +kernel
  have hfound : find? [Sample.quoted] "f".toList "new".toList = some ⟨2, 5⟩ := by decide +kernel
  have hbody : Sample.quotedHunk.body =
      [⟨.removed, "old".toList⟩] ++ ⟨.added, "new".toList⟩ :: [⟨.context, "end".toList⟩] := rfl
  have hsource : IsSource Sample.quoted.patch.lines [Sample.quotedHunk] 2 Sample.quotedHunk
      [⟨.removed, "old".toList⟩] ⟨.added, "new".toList⟩ :=
    ⟨[], [], _, rfl, hbody, by decide +kernel, by decide +kernel, by decide +kernel⟩
  obtain ⟨hshown, -, hlocated, -, hsame⟩ := counted_from_start hparse List.mem_cons_self
    (by decide) hbody (by decide) rfl
  have hstart : 5 = Sample.quotedHunk.newStart :=
    hlocated _ _ _ isClose ⟨2, 5⟩ hfile hfound hsource
  have hfirst := hsame.mpr (by decide)
  have hprinted := hshown [] [] rfl
  rw [← hstart] at hprinted hfirst
  exact ⟨hparse, hfound, hsource, hprinted, hfirst.symm⟩

namespace Sample

def zeroStart : FileChange :=
  { filename := "f".toList, kind := .added, patch := "@@ -0,0 +0,1 @@\n+a".toList }

def zeroStartHunk : Hunk :=
  { oldStart := 0, oldCount := 0, newStart := 0, newCount := 1, comment := []
    body := [⟨.added, "a".toList⟩], written := some "@@ -0,0 +0,1 @@".toList }

end Sample

/-- A hunk of one new line with the start 0: the line is printed and located under the number 0, and
printed under the number 1 when the hunk is widened by the line behind it. -/
theorem zero_start_numbered :
    Patch.parse Sample.zeroStart.patch = .ok [Sample.zeroStartHunk] ∧
      Sample.zeroStartHunk.newCount ≠ 0 ∧ Sample.zeroStartHunk.newFirst = 1 ∧
      Rendering.numbered "f".toList [Sample.zeroStartHunk] =
        "## f\n\n@@ -0,0 +0,1 @@\n__new hunk__\n0 +a\n".toList ∧
      find? [Sample.zeroStart] "f".toList "a".toList = some ⟨1, 0⟩ ∧
      Rendering.numbered "f".toList (Hunk.widen ["b".toList] 0 1 [Sample.zeroStartHunk]) =
        "## f\n\n@@ -1,1 +1,2 @@\n__new hunk__\n1 +a\n2  b\n__old hunk__\n b\n".toList := by
  refine ⟨?_, ?_, ?_, ?_, ?_, ?_⟩ <;> decide +kernel

end Location
end DiffBudget
