import DiffBudget.Proofs.Location.FirstHolder

/-!
# Lines in front of the first header

A patch may have lines in front of its first header. The reading passes them over and the search
does not: a line that is no header, no remark and not marked as removed can be located there,
though it is part of no hunk and has no number. From the first header on, only lines of hunks are
located.
-/
namespace DiffBudget

open Hunk (isHeaderLine isMalformed)

namespace Patch

variable {ls : List Text} {hunks : List Hunk}

def preamble (ls : List Text) : List Text := ls.takeWhile (! isHeaderLine ·)

theorem not_header_of_mem_preamble {line : Text} (h : line ∈ preamble ls) :
    isHeaderLine line = false := by
  simpa using List.mem_takeWhile_imp h

theorem exists_split_preamble (ls : List Text) :
    ∃ rest, ls = preamble ls ++ rest ∧ ∀ l ∈ rest.head?, isHeaderLine l = true := by
  obtain ⟨front, rest, rfl, hfront, hrest⟩ := Hunk.exists_block ls
  exact ⟨rest, by rw [preamble, takeWhile_append_stop hfront hrest], hrest⟩

theorem mem_preamble {i : Nat} {line : Text} (hget : ls[i]? = some line)
    (hlt : i < (preamble ls).length) : line ∈ preamble ls := by
  obtain ⟨rest, hsplit, -⟩ := exists_split_preamble ls
  rw [hsplit, List.getElem?_append_left hlt] at hget
  exact List.mem_of_getElem? hget

theorem readLines_of_no_header (h : ∀ l ∈ ls, isHeaderLine l = false) : readLines ls = .ok [] := by
  have hnone : ls.dropWhile (! isHeaderLine ·) = [] := by
    simpa [List.dropWhile_eq_nil_iff] using h
  rw [readLines, hnone, Hunk.ofLines_nil]

theorem IsSource.preamble_le {position : Nat} {h : Hunk} {front : List BodyLine} {l : BodyLine}
    (hsource : IsSource ls hunks position h front l) : (preamble ls).length ≤ position := by
  obtain ⟨before, -, -, -, -, -, hbegun, -⟩ := hsource
  obtain ⟨rest, hsplit, -⟩ := exists_split_preamble ls
  by_contra hlt
  have htake : ls.take position = (preamble ls).take position := by
    conv_lhs => rw [hsplit]
    exact List.take_append_of_le_length (by omega)
  rw [htake, readLines_of_no_header] at hbegun
  · simp at hbegun
  · exact fun l hl => not_header_of_mem_preamble (List.mem_of_mem_take hl)

end Patch

namespace Location

open Patch (preamble readLines)

variable {quote : Text} {loc : Location} {ls front : List Text} {hunks : List Hunk}

theorem searchFrom_append (hgood : ∀ l ∈ front, isMalformed l = false) (quote : Text)
    (position next : Nat) (ls : List Text) :
    ∃ following, searchFrom quote position next (front ++ ls) =
      (searchFrom quote position next front).or
        (searchFrom quote (position + front.length) following ls) := by
  induction front generalizing position next with
  | nil => exact ⟨next, rfl⟩
  | cons line front ih =>
    obtain ⟨hline, hrest⟩ := List.forall_mem_cons.mp hgood
    rw [List.cons_append]
    by_cases hholds : Holds quote line
    · rw [searchFrom_of_holds hholds, searchFrom_of_holds hholds]
      exact ⟨next, rfl⟩
    · obtain ⟨second, hstep⟩ := searchFrom_of_not_holds hline hholds position next
      obtain ⟨following, hlater⟩ := ih hrest (position + 1) second
      refine ⟨following, ?_⟩
      rw [hstep, hstep, hlater, List.length_cons, Nat.add_assoc, Nat.add_comm 1]

theorem searchFrom_of_header (hhead : ∀ l ∈ ls.head?, isHeaderLine l = true)
    (position next : Nat) : searchFrom quote position next ls = searchFrom quote position 0 ls := by
  cases ls with
  | nil => rfl
  | cons line ls =>
    have hline : isHeaderLine line = true := hhead line rfl
    simp only [searchFrom, hline, if_true]

theorem search_cases (hgood : ∀ l ∈ ls, isMalformed l = false) (hread : readLines ls = .ok hunks)
    (hfound : search ls quote = some loc) :
    loc.position < (preamble ls).length ∨ IsNumbered ls hunks loc := by
  obtain ⟨rest, hsplit, hhead⟩ := Patch.exists_split_preamble ls
  have hnone : ∀ l ∈ preamble ls, isHeaderLine l = false :=
    fun l hl => Patch.not_header_of_mem_preamble hl
  generalize preamble ls = front at hsplit hnone ⊢
  subst hsplit
  obtain ⟨hfront, hrest⟩ := List.forall_mem_append.mp hgood
  obtain ⟨following, happend⟩ := searchFrom_append hfront quote 0 0 rest
  rw [search, happend] at hfound
  rcases Option.or_eq_some_iff.mp hfound with hfirst | ⟨-, hsecond⟩
  · obtain ⟨⟨line, hget, -⟩, -⟩ := isFirstHolder_of_search hfront hfirst
    exact .inl (List.getElem?_eq_some_iff.mp hget).1
  · rw [searchFrom_of_header hhead, Nat.zero_add] at hsecond
    exact .inr (isNumbered_of_searchFrom hrest hhead (Patch.readLines_of_no_header hnone) hread
      hsecond)

section InPatch

variable {close : Text → Text → Bool} (hgood : ∀ l ∈ ls, isMalformed l = false)
  (hfound : inPatch close ls quote = some loc)

include hgood hfound

theorem inPatch_shown : ∃ line, ls[loc.position]? = some line ∧ IsShown line := by
  obtain ⟨text, hsearch⟩ := exists_search_of_inPatch hfound
  obtain ⟨⟨line, hget, hholds⟩, -⟩ := isFirstHolder_of_search hgood hsearch
  exact ⟨line, hget, hholds.1⟩

theorem isNumbered_iff (hread : readLines ls = .ok hunks) :
    IsNumbered ls hunks loc ↔ (preamble ls).length ≤ loc.position := by
  obtain ⟨text, hsearch⟩ := exists_search_of_inPatch hfound
  constructor
  · intro hnumbered
    obtain ⟨h, front, l, hsource, -⟩ := hnumbered.isSource
    exact hsource.preamble_le
  · intro hle
    exact (search_cases hgood hread hsearch).resolve_left (Nat.not_lt.mpr hle)

end InPatch

/-- Only lines of the new version are located. They are numbered lines of hunks, but for lines in
front of the first header, which no hunk has. -/
theorem located_in_hunk_iff {files : List FileChange} {filename : Text} {f : FileChange}
    (hfile : files.find? (fun f => f.filename.trim == filename) = some f)
    (hparse : Patch.parse f.patch = .ok hunks) (close : Text → Text → Bool)
    (hfound : findBy? close files filename quote = some loc) :
    (∃ line, f.patch.lines[loc.position]? = some line ∧ IsShown line) ∧
      (IsNumbered f.patch.lines hunks loc ↔ (preamble f.patch.lines).length ≤ loc.position) ∧
      ((∀ line ∈ preamble f.patch.lines, ¬IsShown line) →
        IsNumbered f.patch.lines hunks loc) := by
  have hgood := Patch.not_malformed_of_parse hparse
  rw [findBy?, hfile, Option.bind_some] at hfound
  have hnumbered := isNumbered_iff hgood hfound hparse
  obtain ⟨line, hget, hshown⟩ := inPatch_shown hgood hfound
  refine ⟨⟨line, hget, hshown⟩, hnumbered, fun hnone => hnumbered.mpr ?_⟩
  by_contra hlt
  exact hnone line (Patch.mem_preamble hget (Nat.lt_of_not_le hlt)) hshown

namespace Sample

def headed : FileChange :=
  { filename := "f".toList, kind := .modified
    patch := "--- a/f\n+++ b/f\n@@ -1 +1 @@\n-a\n+b".toList }

def headedHunk : Hunk :=
  { oldStart := 1, oldCount := 1, newStart := 1, newCount := 1, comment := []
    body := [⟨.removed, "a".toList⟩, ⟨.added, "b".toList⟩], written := some "@@ -1 +1 @@".toList }

theorem parse_headed : Patch.parse headed.patch = .ok [headedHunk] := by decide +kernel

theorem length_preamble_headed : (preamble headed.patch.lines).length = 2 := by decide +kernel

end Sample

theorem located_in_hunk_of_headed :
    [Sample.headed].find? (fun f => f.filename.trim == "f".toList) = some Sample.headed ∧
      Patch.parse Sample.headed.patch = .ok [Sample.headedHunk] ∧
      find? [Sample.headed] "f".toList "+b".toList = some ⟨4, 1⟩ ∧
      IsNumbered Sample.headed.patch.lines [Sample.headedHunk] ⟨4, 1⟩ := by
  have hfile : [Sample.headed].find? (fun f => f.filename.trim == "f".toList) =
      some Sample.headed := by decide +kernel
  have hfound : find? [Sample.headed] "f".toList "+b".toList = some ⟨4, 1⟩ := by decide +kernel
  have hinside := (located_in_hunk_iff hfile Sample.parse_headed isClose hfound).2.1
  rw [Sample.length_preamble_headed] at hinside
  exact ⟨hfile, Sample.parse_headed, hfound, hinside.mpr (by decide)⟩

/-- The line that names the new version is located, under the number 0, and the added line that
holds the quote as well is not. -/
theorem preamble_line_located :
    Patch.parse Sample.headed.patch = .ok [Sample.headedHunk] ∧
      find? [Sample.headed] "f".toList "b".toList = some ⟨1, 0⟩ ∧
      (¬∃ h front l, Patch.IsSource Sample.headed.patch.lines [Sample.headedHunk] 1 h front l) ∧
      Sample.headed.patch.lines[1]? = some "+++ b/f".toList ∧
      Sample.headed.patch.lines[4]? = some "+b".toList := by
  refine ⟨Sample.parse_headed, ?_, ?_, ?_, ?_⟩
  · decide +kernel
  · rintro ⟨h, front, l, hsource⟩
    have hle := hsource.preamble_le
    rw [Sample.length_preamble_headed] at hle
    omega
  · decide +kernel
  · decide +kernel

end Location
end DiffBudget
