import DiffBudget.Proofs.Change.MultiFile
import Mathlib.Data.List.TakeWhile

/-!
# Diffs one behind another

A reader that takes a diff line by line keeps the changes of the sections it has closed and the one
section that is open. An opening line closes that section and opens one that knows nothing of what
came before, so two diffs one behind another have the changes of both.
-/
namespace DiffBudget

/-- A section up to some line: what its opening says, whether a hunk has begun, and the patch. -/
structure OpenSection where
  told : Section
  inHunks : Bool := false
  patch : List Text := []

namespace OpenSection

def start (line : Text) : OpenSection :=
  { told := .ofOpening (line.drop Section.openingMark.length) }

def push (s : OpenSection) (line : Text) : OpenSection :=
  if s.inHunks || Hunk.isHeaderLine line then
    { s with inHunks := true, patch := s.patch ++ [line] }
  else { s with told := s.told.step (.ofLine line) }

def finish (s : OpenSection) : FileChange := s.told.toChange s.patch

theorem foldl_push_inHunks (told : Section) (patch ls : List Text) :
    ls.foldl push ⟨told, true, patch⟩ = ⟨told, true, patch ++ ls⟩ := by
  induction ls generalizing patch with
  | nil => simp
  | cons line ls ih =>
    have hpush : push ⟨told, true, patch⟩ line = ⟨told, true, patch ++ [line]⟩ := rfl
    rw [List.foldl_cons, hpush, ih, List.append_assoc]
    rfl

theorem foldl_push_opening (told : Section) (block : List Text) :
    block.foldl push { told } =
      { told := told.readOpening (block.takeWhile (! Hunk.isHeaderLine ·))
        inHunks := block.any Hunk.isHeaderLine
        patch := block.dropWhile (! Hunk.isHeaderLine ·) } := by
  induction block generalizing told with
  | nil => rfl
  | cons line block ih =>
    by_cases hheader : Hunk.isHeaderLine line = true
    · have hpush : push { told } line = ⟨told, true, [line]⟩ := by simp [push, hheader]
      rw [List.foldl_cons, hpush, foldl_push_inHunks]
      simp [hheader, Section.readOpening]
    · have hpush : push { told } line = { told := told.step (.ofLine line) } := by
        simp [push, hheader]
      rw [List.foldl_cons, hpush, ih]
      simp [hheader, Section.readOpening]

theorem finish_foldl_push (line : Text) (block : List Text) :
    (block.foldl push (start line)).finish =
      Section.read (line.drop Section.openingMark.length) block := by
  rw [start, foldl_push_opening]
  rfl

end OpenSection

structure SectionReader where
  changes : List FileChange := []
  current : Option OpenSection := none

namespace SectionReader

def finish (r : SectionReader) : List FileChange :=
  r.changes ++ (r.current.map OpenSection.finish).toList

def readLine (r : SectionReader) (line : Text) : SectionReader :=
  if Section.isOpening line then ⟨r.finish, some (.start line)⟩
  else ⟨r.changes, r.current.map (·.push line)⟩

theorem readLine_opening {line : Text} (h : Section.isOpening line = true) (r : SectionReader) :
    r.readLine line = ⟨r.finish, some (.start line)⟩ := if_pos h

theorem readLine_inside {line : Text} (h : Section.isOpening line = false) (r : SectionReader) :
    r.readLine line = ⟨r.changes, r.current.map (·.push line)⟩ := by
  rw [readLine, h]
  rfl

theorem foldl_readLine_inside {block : List Text} (h : ∀ l ∈ block, Section.isOpening l = false)
    (r : SectionReader) :
    block.foldl readLine r = ⟨r.changes, r.current.map (block.foldl OpenSection.push)⟩ := by
  induction block generalizing r with
  | nil => cases hcurrent : r.current <;> simp [← hcurrent]
  | cons line block ih =>
    obtain ⟨hline, hblock⟩ := List.forall_mem_cons.mp h
    rw [List.foldl_cons, readLine_inside hline, ih hblock, Option.map_map]
    rfl

theorem finish_foldl_readLine (changes : List FileChange) (current : Option OpenSection)
    (ls : List Text) :
    (ls.foldl readLine ⟨changes, current⟩).finish =
      changes ++ (ls.foldl readLine ⟨[], current⟩).finish := by
  induction ls generalizing changes current with
  | nil => simp [finish]
  | cons line ls ih =>
    rw [List.foldl_cons, List.foldl_cons]
    cases hopening : Section.isOpening line with
    | true =>
      rw [readLine_opening hopening, readLine_opening hopening, ih (finish ⟨changes, current⟩),
        ih (finish ⟨[], current⟩)]
      simp [finish]
    | false => rw [readLine_inside hopening, readLine_inside hopening, ih]

/-- Lines that begin at an opening line are read alike, whatever has been read before them. -/
theorem finish_foldl_opening {ls : List Text} (h : ∀ l ∈ ls.head?, Section.isOpening l = true)
    (r : SectionReader) :
    (ls.foldl readLine r).finish = r.finish ++ (ls.foldl readLine {}).finish := by
  cases ls with
  | nil => simp [finish]
  | cons line ls =>
    have hopening := h line rfl
    rw [List.foldl_cons, List.foldl_cons, readLine_opening hopening, readLine_opening hopening,
      finish_foldl_readLine]
    rfl

theorem isOpening_head_dropWhile (ls : List Text) :
    ∀ l ∈ (ls.dropWhile (! Section.isOpening ·)).head?, Section.isOpening l = true := by
  intro l hl
  have hnot := List.head?_dropWhile_not (! Section.isOpening ·) ls
  rw [Option.mem_def.mp hl] at hnot
  simpa using hnot

theorem foldl_readLine_split (r : SectionReader) (ls : List Text) :
    ls.foldl readLine r =
      (ls.dropWhile (! Section.isOpening ·)).foldl readLine
        ⟨r.changes, r.current.map ((ls.takeWhile (! Section.isOpening ·)).foldl .push)⟩ := by
  have hinside : ∀ l ∈ ls.takeWhile (! Section.isOpening ·), Section.isOpening l = false := by
    intro l hl
    simpa using List.mem_takeWhile_imp hl
  rw [← foldl_readLine_inside hinside, ← List.foldl_append, List.takeWhile_append_dropWhile]

theorem finish_foldl_eq_ofLines {ls : List Text}
    (h : ∀ l ∈ ls.head?, Section.isOpening l = true) :
    (ls.foldl readLine {}).finish = Section.ofLines ls := by
  fun_induction Section.ofLines ls with
  | case1 => rfl
  | case2 line ls ih =>
    have hnext := isOpening_head_dropWhile ls
    rw [List.foldl_cons, readLine_opening (h line rfl), foldl_readLine_split,
      finish_foldl_opening hnext, ih hnext, Option.map_some, finish, Option.map_some,
      OpenSection.finish_foldl_push]
    rfl

end SectionReader

namespace Text

theorem prefix_dropReturn {p l : Text} (hp : '\r' ∉ p) (h : p <+: l) : p <+: dropReturn l := by
  obtain ⟨t, rfl⟩ := h
  unfold dropReturn
  split
  case isTrue hlast =>
    cases t with
    | nil =>
      rw [List.append_nil] at hlast
      exact absurd (List.mem_of_getLast? hlast) hp
    | cons c t =>
      rw [List.dropLast_append_of_ne_nil (List.cons_ne_nil c t)]
      exact List.prefix_append _ _
  case isFalse => exact List.prefix_append _ _

theorem prefix_of_head?_lines {p t : Text} (hnewline : '\n' ∉ p) (hreturn : '\r' ∉ p)
    (h : p <+: t) : ∀ l ∈ t.lines.head?, p <+: l := by
  obtain ⟨u, rfl⟩ := h
  by_cases hmem : '\n' ∈ u
  · obtain ⟨first, rest, rfl, hfirst⟩ := List.eq_append_cons_of_mem hmem
    rw [← List.append_assoc, lines_append_newline (by simp [hnewline, hfirst])]
    rintro l ⟨⟩
    exact prefix_dropReturn hreturn (List.prefix_append _ _)
  · by_cases hempty : p ++ u = []
    · rw [hempty]
      simp
    · rw [lines_of_no_newline (by simp [hnewline, hmem]) hempty]
      rintro l ⟨⟩
      exact List.prefix_append _ _

end Text

namespace FileChange

theorem ofDiff_eq_foldl (diff : Text) :
    ofDiff diff = (diff.lines.foldl SectionReader.readLine {}).finish := by
  rw [SectionReader.foldl_readLine_split, Option.map_none,
    SectionReader.finish_foldl_eq_ofLines (SectionReader.isOpening_head_dropWhile _)]
  rfl

/-- A diff behind another adds its own changes, whatever either of them is like. -/
theorem ofDiff_append {a b : Text} (ha : a = [] ∨ a.getLast? = some '\n')
    (hb : Section.openingMark <+: b) : ofDiff (a ++ b) = ofDiff a ++ ofDiff b := by
  have hopening : ∀ l ∈ b.lines.head?, Section.isOpening l = true := by
    intro l hl
    apply List.isPrefixOf_iff_prefix.mpr
    exact Text.prefix_of_head?_lines (by decide) (by decide) hb l hl
  rw [ofDiff_eq_foldl, ofDiff_eq_foldl a, ofDiff_eq_foldl b, Text.lines_append_of_closed ha,
    List.foldl_append, SectionReader.finish_foldl_opening hopening]

end FileChange

def Sample.cutOff : Text :=
  "so far\n@@ -9 +9 @@\ndiff --git a/x b/x\nrename from w\n@@ -1,2 +1 @@\n-x\n".toList

def Sample.cutOpening : Text :=
  "diff --git a/y b/y\nnew file mode 100644\ndiff --git \n+z".toList

theorem FileChange.ofDiff_append_of_cutOff :
    (Sample.cutOff = [] ∨ Sample.cutOff.getLast? = some '\n') ∧
      Section.openingMark <+: Sample.cutOpening ∧
      ofDiff (Sample.cutOff ++ Sample.cutOpening) =
        [{ filename := "x".toList, kind := .renamed, oldFilename := some "w".toList
           patch := "@@ -1,2 +1 @@\n-x".toList },
          { filename := "y".toList, kind := .added }, { filename := [], kind := .modified }] := by
  have hclosed : Sample.cutOff = [] ∨ Sample.cutOff.getLast? = some '\n' := by decide
  have hopening : Section.openingMark <+: Sample.cutOpening := by decide
  refine ⟨hclosed, hopening, ?_⟩
  rw [ofDiff_append hclosed hopening]
  decide +kernel

end DiffBudget
