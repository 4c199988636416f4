import DiffBudget.Location
import DiffBudget.Proofs.Change.MultiFile
import DiffBudget.Proofs.Patch.Source
import DiffBudget.Proofs.Rendering

/-!
# Located lines are the lines of the numbered layout

The search counts the lines of the new version along the patch and never builds a hunk. Its count
is the number of the line that comes next in the last hunk read so far, which each line of the
patch changes as it changes the hunk. So a located line is the source of a body line that is in
the new version, with the number of the numbered layout. The search stops at the first such line
that holds the quote, whatever the quote was replaced by.
-/
namespace DiffBudget

theorem Text.occursIn_self (t : Text) : t.occursIn t = true := by
  cases t with
  | nil => rfl
  | cons c t => simp [occursIn]

namespace Location

open Hunk (isHeaderLine isMalformed isRemark)
open Patch (IsSource ReadAt readLine readLines)

def nextLine (hunks : List Hunk) : Nat :=
  match hunks.getLast? with
  | some h => h.newStart + (h.body.filter (·.inNew)).length
  | none => 0

theorem nextLine_concat (before : List Hunk) (h : Hunk) :
    nextLine (before ++ [h]) = h.newStart + (h.body.filter (·.inNew)).length := by
  simp [nextLine]

theorem nextLine_push (before : List Hunk) (g : Hunk) (line : Text) :
    nextLine (before ++ [g.push line]) =
      nextLine (before ++ [g]) + if (BodyLine.ofMarked line).inNew then 1 else 0 := by
  rw [nextLine_concat, nextLine_concat, Hunk.push, List.filter_append]
  by_cases hnew : (BodyLine.ofMarked line).inNew <;> simp [hnew, Nat.add_assoc]

/-- The line stands in the new version, if a header stands before it. -/
def IsShown (line : Text) : Prop :=
  isHeaderLine line = false ∧ isRemark line = false ∧ line.head? ≠ some '-'

instance (line : Text) : Decidable (IsShown line) := inferInstanceAs (Decidable (_ ∧ _))

theorem IsShown.inNew {line : Text} (h : IsShown line) : (BodyLine.ofMarked line).inNew = true := by
  rw [BodyLine.inNew_ofMarked]
  simpa using h.2.2

theorem isShown_of_added {line : Text} (h : line.head? = some '+') : IsShown line := by
  obtain ⟨t, rfl⟩ := List.head?_eq_some_iff.mp h
  exact ⟨rfl, rfl, by simp⟩

/-- The text occurs in a line that stands in the new version, if a header stands before it. -/
def Holds (text line : Text) : Prop := IsShown line ∧ text.occursIn line = true

instance (text line : Text) : Decidable (Holds text line) := inferInstanceAs (Decidable (_ ∧ _))

theorem holds_self {line : Text} (hshown : IsShown line) : Holds line line :=
  ⟨hshown, line.occursIn_self⟩

variable {quote : Text} {loc : Location}

theorem snap?_eq_some {close : Text → Text → Bool} {patch : List Text} {line : Text}
    (h : snap? close patch quote = some line) : line ∈ patch ∧ IsShown line := by
  unfold snap? at h
  split at h
  · rename_i hfilter
    split at h
    · rename_i hplus
      cases h
      have hmem : line ∈ patch.filter (close quote) := hfilter ▸ List.mem_singleton_self line
      exact ⟨(List.mem_filter.mp hmem).1, isShown_of_added hplus⟩
    · cases h
  · cases h

section Steps

variable {ls : List Text} {line : Text}

theorem searchFrom_of_holds (h : Holds quote line) (position next : Nat) (ls : List Text) :
    searchFrom quote position next (line :: ls) = some ⟨position, next⟩ := by
  obtain ⟨⟨hheader, hremark, hremoved⟩, hoccurs⟩ := h
  simp [searchFrom, hheader, hremark, hremoved, hoccurs]

theorem searchFrom_of_not_holds (hgood : isMalformed line = false) (h : ¬Holds quote line)
    (position next : Nat) :
    ∃ following, ∀ ls, searchFrom quote position next (line :: ls) =
      searchFrom quote (position + 1) following ls := by
  simp only [searchFrom]
  split
  · rename_i hheader
    cases hread : Hunk.Header.read? line with
    | none => simp [isMalformed, hheader, hread] at hgood
    | some header => exact ⟨_, fun _ => rfl⟩
  · split
    · exact ⟨_, fun _ => rfl⟩
    · rename_i hheader hskipped
      have hshown : IsShown line := by
        simp only [not_or] at hskipped
        exact ⟨Bool.not_eq_true _ ▸ hheader, Bool.not_eq_true _ ▸ hskipped.2, hskipped.1⟩
      have hnot : ¬quote.occursIn line = true := fun hoccurs => h ⟨hshown, hoccurs⟩
      exact ⟨next + 1, fun _ => if_neg hnot⟩

theorem searchFrom_position (hgood : ∀ l ∈ ls, isMalformed l = false) (position next : Nat) :
    (searchFrom quote position next ls).map (·.position) =
      (ls.findIdx? (Holds quote ·)).map (position + ·) := by
  induction ls generalizing position next with
  | nil => rfl
  | cons line ls ih =>
    obtain ⟨hline, hrest⟩ := List.forall_mem_cons.mp hgood
    rw [List.findIdx?_cons]
    by_cases hholds : Holds quote line
    · rw [searchFrom_of_holds hholds]
      simp [hholds]
    · obtain ⟨following, hstep⟩ := searchFrom_of_not_holds hline hholds position next
      rw [hstep, ih hrest]
      simp [hholds, Function.comp_def, Nat.add_assoc, Nat.add_comm 1]

theorem search_position (hgood : ∀ l ∈ ls, isMalformed l = false) (quote : Text) :
    (search ls quote).map (·.position) = ls.findIdx? (Holds quote ·) := by
  rw [search, searchFrom_position hgood]
  simp

theorem search_isSome_of_holds (hgood : ∀ l ∈ ls, isMalformed l = false) (hmem : line ∈ ls)
    (hholds : Holds quote line) : (search ls quote).isSome = true := by
  rw [← Option.isSome_map (f := Location.position), search_position hgood, List.findIdx?_isSome,
    List.any_eq_true]
  exact ⟨line, hmem, by simpa using hholds⟩

end Steps

section Search

variable {front ls : List Text} {hunks : List Hunk} {line : Text}

/-- The search and the reading take each line alike: where the one counts on, the other adds a line
of the new version to the last hunk. -/
theorem searchFrom_cons (hgood : isMalformed line = false)
    (hbegun : hunks ≠ [] ∨ isHeaderLine line = true) (quote : Text) (position : Nat)
    (ls : List Text) :
    ∃ next, readLine hunks line = .ok next ∧ next ≠ [] ∧
      searchFrom quote position (nextLine hunks) (line :: ls) =
        if Holds quote line then some ⟨position, nextLine hunks⟩
        else searchFrom quote (position + 1) (nextLine next) ls := by
  cases hheader : isHeaderLine line with
  | true =>
    have hnot : ¬Holds quote line := fun h => by simp [Holds, IsShown, hheader] at h
    cases hread : Hunk.Header.read? line with
    | none => simp [isMalformed, hheader, hread] at hgood
    | some h =>
      refine ⟨_, Patch.readLine_header hheader hread hunks, by simp, ?_⟩
      rw [if_neg hnot, nextLine_concat]
      simp [searchFrom, hheader, hread, Hunk.ofHeader]
  | false =>
    obtain ⟨before, g, rfl⟩ : ∃ before g, hunks = before ++ [g] :=
      (List.eq_nil_or_concat' hunks).resolve_left (by simpa [hheader] using hbegun)
    cases hremark : isRemark line with
    | true =>
      have hnot : ¬Holds quote line := fun h => by simp [Holds, IsShown, hremark] at h
      refine ⟨_, Patch.readLine_remark hheader hremark _, by simp, ?_⟩
      rw [if_neg hnot]
      simp [searchFrom, hheader, hremark]
    | false =>
      have hpush := List.modifyLast_concat (·.push line) g before
      refine ⟨_, hpush ▸ Patch.readLine_body hheader hremark _, by simp, ?_⟩
      rw [nextLine_push, BodyLine.inNew_ofMarked]
      by_cases hremoved : line.head? = some '-'
      · have hnot : ¬Holds quote line := fun h => h.1.2.2 hremoved
        rw [if_neg hnot]
        simp [searchFrom, hheader, hremoved]
      · simp [searchFrom, hheader, hremark, hremoved, Holds, IsShown]

theorem searchFrom_sound (hgood : ∀ l ∈ ls, isMalformed l = false)
    (hbegun : hunks ≠ [] ∨ ∀ l ∈ ls.head?, isHeaderLine l = true)
    (hread : readLines front = .ok hunks)
    (hfound : searchFrom quote front.length (nextLine hunks) ls = some loc) :
    ∃ line before, (front ++ ls)[loc.position]? = some line ∧ IsShown line ∧ before ≠ [] ∧
      readLines ((front ++ ls).take loc.position) = .ok before ∧ loc.line = nextLine before := by
  -- `front` takes up the lines that were searched in vain
  induction ls generalizing front hunks with
  | nil => cases hfound
  | cons line ls ih =>
    obtain ⟨hline, hrest⟩ := List.forall_mem_cons.mp hgood
    have hfirst : hunks ≠ [] ∨ isHeaderLine line = true := hbegun.imp_right fun h => h line rfl
    obtain ⟨next, hnext, hne, hstep⟩ := searchFrom_cons hline hfirst quote front.length ls
    rw [hstep] at hfound
    split at hfound
    · rename_i hshown
      cases hfound
      have hhunks : hunks ≠ [] := hfirst.resolve_right (by simp [hshown.1.1])
      exact ⟨line, hunks, by simp, hshown.1, hhunks, by simpa using hread, rfl⟩
    · have hreadNext : readLines (front ++ [line]) = .ok next := by
        rw [Patch.readLines_concat, hread]
        exact hnext
      have hlater := ih hrest (.inl hne) hreadNext (by simpa using hfound)
      simpa using hlater

end Search

variable {ls : List Text} {hunks : List Hunk}

/-- The line at this place is the source of a body line of the new version, and this is the number
that the numbered layout prints for the body line. -/
def IsNumbered (ls : List Text) (hunks : List Hunk) (loc : Location) : Prop :=
  ∃ before after h front back l, hunks = before ++ h :: after ∧ h.body = front ++ l :: back ∧
    ReadAt ls loc.position before h front l ∧ l.inNew = true ∧
    Rendering.PrintsNumber hunks before h front l loc.line

theorem IsNumbered.isSource (hnumbered : IsNumbered ls hunks loc) :
    ∃ h front l, IsSource ls hunks loc.position h front l ∧
      loc.line = h.newStart + (front.filter (·.inNew)).length := by
  obtain ⟨before, after, h, front, back, l, rfl, hbody, hat, hnew, hprinted⟩ := hnumbered
  exact ⟨h, front, l, ⟨before, after, back, rfl, hbody, hat⟩,
    hprinted.unique (Rendering.printsNumber hbody hnew before after)⟩

theorem isNumbered_of_searchFrom {front : List Text}
    (hgood : ∀ l ∈ ls, isMalformed l = false)
    (hhead : ∀ l ∈ ls.head?, isHeaderLine l = true) (hfront : readLines front = .ok [])
    (hread : readLines (front ++ ls) = .ok hunks)
    (hfound : searchFrom quote front.length 0 ls = some loc) :
    IsNumbered (front ++ ls) hunks loc := by
  obtain ⟨line, before, hget, hshown, hne, hbefore, hnumber⟩ :=
    searchFrom_sound hgood (.inr hhead) hfront hfound
  obtain ⟨before, g, rfl⟩ := (List.eq_nil_or_concat' before).resolve_left hne
  obtain ⟨back, before, after, rest, hsplit, hbody, hat⟩ :=
    Patch.isSource_of_line hread hget hshown.1 hshown.2.1 hbefore
  rw [nextLine_concat] at hnumber
  refine ⟨before, after, _, _, _, _, hsplit, hbody, hat, hshown.inNew, ?_⟩
  rw [hnumber, hsplit]
  exact Rendering.printsNumber hbody hshown.inNew before after

theorem exists_search_of_inPatch {close : Text → Text → Bool}
    (hfound : inPatch close ls quote = some loc) : ∃ text, search ls text = some loc := by
  unfold inPatch at hfound
  split at hfound
  · cases hfound
  · rcases Option.or_eq_some_iff.mp hfound with hfirst | ⟨-, hsecond⟩
    · exact ⟨_, hfirst⟩
    · obtain ⟨bare, -, hbare⟩ := Option.bind_eq_some_iff.mp hsecond
      exact ⟨bare, hbare⟩

theorem inPatch_complete (hgood : ∀ l ∈ ls, isMalformed l = false) (close : Text → Text → Bool)
    (hquote : quote ≠ []) {line : Text} (hmem : line ∈ ls) (hholds : Holds quote line) :
    (inPatch close ls quote).isSome = true := by
  rw [inPatch, if_neg (by simpa using hquote), Option.isSome_or]
  cases hsnap : snap? close ls quote with
  | none =>
    rw [Option.getD_none, search_isSome_of_holds hgood hmem hholds]
    rfl
  | some added =>
    -- the quote stands for an added line of the patch, which holds itself
    have hadded := snap?_eq_some hsnap
    rw [Option.getD_some, search_isSome_of_holds hgood hadded.1 (holds_self hadded.2)]
    rfl

section Patch

variable (hgood : ∀ l ∈ ls, isMalformed l = false)
  (hhead : ∀ l ∈ ls.head?, isHeaderLine l = true)

include hgood hhead

theorem search_sound (hread : readLines ls = .ok hunks) (hfound : search ls quote = some loc) :
    IsNumbered ls hunks loc :=
  isNumbered_of_searchFrom hgood hhead Patch.readLines_nil hread hfound

theorem inPatch_sound {close : Text → Text → Bool} (hread : readLines ls = .ok hunks)
    (hfound : inPatch close ls quote = some loc) : IsNumbered ls hunks loc := by
  obtain ⟨text, hsearch⟩ := exists_search_of_inPatch hfound
  exact search_sound hgood hhead hread hsearch

end Patch

/-- A line is located only where the numbered layout shows it, with its number there, and it is
located when some line of the new version holds the quote, whatever counts as close. -/
theorem found_where_shown {diff filename : Text} {f : FileChange}
    (hfile : (FileChange.ofDiff diff).find? (fun f => f.filename.trim == filename) = some f)
    (hparse : Patch.parse f.patch = .ok hunks) (hquote : quote ≠ [])
    (close : Text → Text → Bool) :
    (∀ loc, findBy? close (FileChange.ofDiff diff) filename quote = some loc →
      IsNumbered f.patch.lines hunks loc) ∧
    ∀ position h front l line, IsSource f.patch.lines hunks position h front l →
      l.inNew = true → f.patch.lines[position]? = some line → quote.occursIn line = true →
      (findBy? close (FileChange.ofDiff diff) filename quote).isSome = true := by
  have hread : readLines f.patch.lines = .ok hunks := hparse
  have hgood := Patch.not_malformed_of_parse hparse
  have hhead := FileChange.isHeaderLine_head_patch (List.mem_of_find?_eq_some hfile)
  have hfind : findBy? close (FileChange.ofDiff diff) filename quote =
      inPatch close f.patch.lines quote := by rw [findBy?, hfile, Option.bind_some]
  rw [hfind]
  refine ⟨fun loc hfound => inPatch_sound hgood hhead hread hfound, ?_⟩
  intro position h front l line hsource hnew hget hholds
  obtain ⟨hheader, hremark, rfl⟩ := hsource.read hget
  rw [BodyLine.inNew_ofMarked] at hnew
  have hshown : IsShown line := ⟨hheader, hremark, by simpa using hnew⟩
  exact inPatch_complete hgood close hquote (List.mem_of_getElem? hget) ⟨hshown, hholds⟩

namespace Sample

def quoted : FileChange :=
  { filename := "f".toList, kind := .modified
    patch := "@@ -4,2 +5,2 @@\n-old\n+new\n end".toList }

def quotedDiff : Text :=
  "diff --git a/f b/f\n--- a/f\n+++ b/f\n@@ -4,2 +5,2 @@\n-old\n+new\n end\n".toList

def quotedHunk : Hunk :=
  { oldStart := 4, oldCount := 2, newStart := 5, newCount := 2, comment := []
    body := [⟨.removed, "old".toList⟩, ⟨.added, "new".toList⟩, ⟨.context, "end".toList⟩]
    written := some "@@ -4,2 +5,2 @@".toList }

end Sample

theorem found_where_shown_of_quoted :
    (FileChange.ofDiff Sample.quotedDiff).find? (fun f => f.filename.trim == "f".toList) =
        some Sample.quoted ∧
      Patch.parse Sample.quoted.patch = .ok [Sample.quotedHunk] ∧ "en".toList ≠ [] ∧
      find? (FileChange.ofDiff Sample.quotedDiff) "f".toList "en".toList = some ⟨3, 6⟩ ∧
      Rendering.numbered "f".toList [Sample.quotedHunk] =
        "## f\n\n@@ -4,2 +5,2 @@\n__new hunk__\n5 +new\n6  end\n__old hunk__\n-old\n end\n".toList ∧
      IsNumbered Sample.quoted.patch.lines [Sample.quotedHunk] ⟨3, 6⟩ := by
  have hfile : (FileChange.ofDiff Sample.quotedDiff).find?
      (fun f => f.filename.trim == "f".toList) = some Sample.quoted := by decide +kernel
  have hparse : Patch.parse Sample.quoted.patch = .ok [Sample.quotedHunk] := by decide +kernel
  have hfound : find? (FileChange.ofDiff Sample.quotedDiff) "f".toList "en".toList =
      some ⟨3, 6⟩ := by decide +kernel
  have hquote : "en".toList ≠ [] := by decide
  exact ⟨hfile, hparse, hquote, hfound, by decide +kernel,
    (found_where_shown hfile hparse hquote isClose).1 _ hfound⟩

end Location
end DiffBudget
