import DiffBudget.Proofs.Location

/-!
# A search stops at the first line that holds the quote

The place that a search gives is that of the first line of the new version in which the quote
occurs. A quote that is close to one added line and to no other is replaced by that line, so it is
found where the line occurs for the first time. This may be an earlier line that merely contains
the text of the added line.
-/
namespace DiffBudget.Location

open Hunk (isMalformed)

variable {quote line : Text} {loc : Location} {ls : List Text}

structure IsFirstHolder (ls : List Text) (text : Text) (position : Nat) : Prop where
  holds : ∃ line, ls[position]? = some line ∧ Holds text line
  first : ∀ i < position, ∀ line, ls[i]? = some line → ¬Holds text line

theorem isFirstHolder_of_search (hgood : ∀ l ∈ ls, isMalformed l = false)
    (hfound : search ls quote = some loc) : IsFirstHolder ls quote loc.position := by
  have hindex := search_position hgood quote
  rw [hfound, Option.map_some, eq_comm, List.findIdx?_eq_some_iff_getElem] at hindex
  obtain ⟨hlt, hholds, hfirst⟩ := hindex
  refine ⟨⟨_, List.getElem?_eq_getElem hlt, by simpa using hholds⟩, fun i hi line hline => ?_⟩
  obtain ⟨-, rfl⟩ := List.getElem?_eq_some_iff.mp hline
  simpa using hfirst i hi

theorem IsFirstHolder.le {text : Text} {position p : Nat} (h : IsFirstHolder ls text position)
    (hline : ls[p]? = some line) (hholds : Holds text line) : position ≤ p := by
  by_contra hlt
  exact h.first p (Nat.lt_of_not_le hlt) line hline hholds

def NoOtherClose (close : Text → Text → Bool) (ls : List Text) (quote : Text) (p : Nat) : Prop :=
  ∀ i other, ls[i]? = some other → close quote other = true → i = p

instance (close : Text → Text → Bool) (ls : List Text) (quote : Text) (p : Nat) :
    Decidable (NoOtherClose close ls quote p) :=
  decidable_of_iff (∀ q ∈ ls.zipIdx, close quote q.1 = true → q.2 = p) <| by
    simp only [NoOtherClose, Prod.forall, List.mem_zipIdx_iff_getElem?]
    exact ⟨fun h i other => h other i, fun h other i => h i other⟩

theorem filter_of_alone {α : Type} {xs : List α} {test : α → Bool} {p : Nat} {a : α}
    (ha : xs[p]? = some a) (halone : ∀ i b, xs[i]? = some b → test b = true → i = p) :
    xs.filter test = [a].filter test := by
  obtain ⟨hlt, rfl⟩ := List.getElem?_eq_some_iff.mp ha
  have hfront : (xs.take p).filter test = [] := by
    refine List.filter_eq_nil_iff.mpr fun b hb htest => ?_
    obtain ⟨i, hi, rfl⟩ := List.mem_take_iff_getElem.mp hb
    have := halone i _ (List.getElem?_eq_getElem _) htest
    omega
  have hback : (xs.drop (p + 1)).filter test = [] := by
    refine List.filter_eq_nil_iff.mpr fun b hb htest => ?_
    obtain ⟨i, hi, rfl⟩ := List.mem_drop_iff_getElem.mp hb
    have := halone _ _ (List.getElem?_eq_getElem _) htest
    omega
  calc xs.filter test = (xs.take p ++ xs[p] :: xs.drop (p + 1)).filter test := by
        rw [← List.drop_eq_getElem_cons hlt, List.take_append_drop]
    _ = [xs[p]].filter test := by
        rw [List.filter_append, hfront, List.filter_cons, hback]
        simp [List.filter_cons]

section Alone

variable {close : Text → Text → Bool} {p : Nat} (hline : ls[p]? = some line)
  (hadded : line.head? = some '+') (hnear : quote = line ∨ close quote line = true)
  (halone : NoOtherClose close ls quote p)

include hline hadded hnear halone

theorem snap?_of_alone : (snap? close ls quote).getD quote = line := by
  rw [snap?, filter_of_alone hline halone]
  cases hclose : close quote line with
  | true => simp [hclose, hadded]
  | false =>
    obtain rfl : quote = line := hnear.resolve_right (by simp [hclose])
    simp [hclose]

theorem inPatch_of_alone (hgood : ∀ l ∈ ls, isMalformed l = false) (hquote : quote ≠ []) :
    ∃ loc, inPatch close ls quote = some loc ∧ IsFirstHolder ls line loc.position := by
  have hmem : line ∈ ls := List.mem_of_getElem? hline
  have hsome := search_isSome_of_holds hgood hmem (holds_self (isShown_of_added hadded))
  obtain ⟨loc, hfound⟩ := Option.isSome_iff_exists.mp hsome
  refine ⟨loc, ?_, isFirstHolder_of_search hgood hfound⟩
  rw [inPatch, if_neg (by simpa using hquote), snap?_of_alone hline hadded hnear halone]
  simp [hfound]

end Alone

/-- A quote that is, or is close to, an added line and is close to no other line is located at the
first line that holds the added line: at the added line itself exactly when no line before it
does. -/
theorem located_at_first_holder {files : List FileChange} {filename : Text} {f : FileChange}
    {hunks : List Hunk} {p : Nat}
    (hfile : files.find? (fun f => f.filename.trim == filename) = some f)
    (hparse : Patch.parse f.patch = .ok hunks) (hline : f.patch.lines[p]? = some line)
    (hadded : line.head? = some '+') (hquote : quote ≠ [])
    (hnear : quote = line ∨ isClose quote line = true)
    (halone : NoOtherClose isClose f.patch.lines quote p) :
    ∃ loc, find? files filename quote = some loc ∧
      IsFirstHolder f.patch.lines line loc.position ∧ loc.position ≤ p ∧
      (loc.position = p ↔
        ∀ i < p, ∀ earlier, f.patch.lines[i]? = some earlier → ¬Holds line earlier) := by
  have hgood := Patch.not_malformed_of_parse hparse
  obtain ⟨loc, hfound, hfirst⟩ := inPatch_of_alone hline hadded hnear halone hgood hquote
  have hholds : Holds line line := holds_self (isShown_of_added hadded)
  have hle := hfirst.le hline hholds
  refine ⟨loc, ?_, hfirst, hle, ?_, fun hnone => ?_⟩
  · rw [find?, findBy?, hfile, Option.bind_some, hfound]
  · rintro rfl
    exact hfirst.first
  · obtain ⟨found, hget, hheld⟩ := hfirst.holds
    by_contra hne
    exact hnone loc.position (by omega) found hget hheld

namespace Sample

def callsDiff : Text :=
  "diff --git a/f b/f\n--- a/f\n+++ b/f\n@@ -1 +1,3 @@\n a\n+path() or b()\n+path()\n".toList

def calls : FileChange :=
  { filename := "f".toList, kind := .modified
    patch := "@@ -1 +1,3 @@\n a\n+path() or b()\n+path()".toList }

def callsHunk : Hunk :=
  { oldStart := 1, oldCount := 1, newStart := 1, newCount := 3, comment := []
    body := [⟨.context, "a".toList⟩, ⟨.added, "path() or b()".toList⟩, ⟨.added, "path()".toList⟩]
    written := some "@@ -1 +1,3 @@".toList }

theorem ofDiff_callsDiff : FileChange.ofDiff callsDiff = [calls] := by decide +kernel

theorem parse_calls : Patch.parse calls.patch = .ok [callsHunk] := by decide +kernel

end Sample

theorem located_at_first_holder_of_nearCopy :
    (FileChange.ofDiff Sample.callsDiff).find? (fun f => f.filename.trim == "f".toList) =
        some Sample.calls ∧
      Patch.parse Sample.calls.patch = .ok [Sample.callsHunk] ∧
      Sample.calls.patch.lines[3]? = some "+path()".toList ∧
      isClose "+path();".toList "+path()".toList = true ∧
      NoOtherClose isClose Sample.calls.patch.lines "+path();".toList 3 ∧
      ∃ loc, find? (FileChange.ofDiff Sample.callsDiff) "f".toList "+path();".toList = some loc ∧
        IsFirstHolder Sample.calls.patch.lines "+path()".toList loc.position ∧ loc.position ≠ 3 := by
  have hfile : (FileChange.ofDiff Sample.callsDiff).find?
      (fun f => f.filename.trim == "f".toList) = some Sample.calls := by
    rw [Sample.ofDiff_callsDiff]
    decide +kernel
  have hline : Sample.calls.patch.lines[3]? = some "+path()".toList := by decide +kernel
  have hclose : isClose "+path();".toList "+path()".toList = true := by decide +kernel
  have halone : NoOtherClose isClose Sample.calls.patch.lines "+path();".toList 3 := by
    decide +kernel
  obtain ⟨loc, hfound, hfirst, -, hsame⟩ := located_at_first_holder hfile Sample.parse_calls hline
    (by decide) (by decide) (.inr hclose) halone
  refine ⟨hfile, Sample.parse_calls, hline, hclose, halone, loc, hfound, hfirst, fun hthree => ?_⟩
  have hnone := hsame.mp hthree 2 (by decide) "+path() or b()".toList (by decide +kernel)
  exact hnone (by decide)

/-- An added line is quoted as it stands and no other line is close to it, but an earlier line holds
it and is located in its place. -/
theorem exact_quote_passed_by :
    FileChange.ofDiff Sample.callsDiff = [Sample.calls] ∧
      Patch.parse Sample.calls.patch = .ok [Sample.callsHunk] ∧
      Sample.calls.patch.lines[3]? = some "+path()".toList ∧
      NoOtherClose isClose Sample.calls.patch.lines "+path()".toList 3 ∧
      find? (FileChange.ofDiff Sample.callsDiff) "f".toList "+path()".toList = some ⟨2, 2⟩ := by
  refine ⟨Sample.ofDiff_callsDiff, Sample.parse_calls, ?_, ?_, ?_⟩ <;> decide +kernel

end DiffBudget.Location
