import DiffBudget.Proofs.Change.Printed

/-!
# Reading a printed diff

The first line of a printed section is the only one that can open a section: the lines above the
patch begin with other words, and the lines of the patch with marks. So a printed diff is read
section by section, and a patch keeps lines that look like those of an opening. Where no path holds
a space, every section gives back its change.
-/
namespace DiffBudget

namespace PrintedSection

open DiffText.FileDiff (labelLine)

structure IsNote (l : Text) : Prop where
  opening : Section.isOpening l = false
  header : Hunk.isHeaderLine l = false
  unbroken : l.Unbroken

theorem isNote_modeLines {s : PrintedSection} (h : s.WellFormed) : ∀ l ∈ s.modeLines, IsNote l := by
  have hnotes := h.notes
  unfold modeLines
  cases hmodes : s.modes with
  | none => simp
  | some modes =>
    have hold : modes.1.Unbroken := hnotes _ (by simp [notes, hmodes])
    have hnew : modes.2.Unbroken := hnotes _ (by simp [notes, hmodes])
    intro l hl
    simp only [List.mem_cons, List.not_mem_nil, or_false] at hl
    rcases hl with rfl | rfl
    · exact ⟨rfl, rfl, .append (by decide) hold⟩
    · exact ⟨rfl, rfl, .append (by decide) hnew⟩

theorem unbroken_ofNat (n : Nat) : (Text.ofNat n).Unbroken := by
  constructor <;> intro hmem <;> exact absurd (Text.isDigit_of_mem_ofNat hmem) (by decide)

theorem isNote_editLines {s : PrintedSection} (h : s.WellFormed) :
    ∀ l ∈ s.edit.lines, IsNote l := by
  have hmode : s.edit.mode.Unbroken := h.notes _ (by simp [notes])
  have hold := h.oldPath.unbroken
  have hpath := h.path.unbroken
  cases hedit : s.edit with
  | added path mode =>
    rw [hedit] at hmode
    intro l hl
    obtain rfl := List.mem_singleton.mp hl
    exact ⟨rfl, rfl, .append (by decide) hmode⟩
  | deleted path mode =>
    rw [hedit] at hmode
    intro l hl
    obtain rfl := List.mem_singleton.mp hl
    exact ⟨rfl, rfl, .append (by decide) hmode⟩
  | modified path => simp [PrintedEdit.lines]
  | renamed oldPath path percent =>
    rw [hedit] at hold hpath
    intro l hl
    simp only [PrintedEdit.lines, List.mem_cons, List.not_mem_nil, or_false] at hl
    rcases hl with rfl | rfl | rfl
    · exact ⟨rfl, rfl, .append (.append (by decide) (unbroken_ofNat _)) (by decide)⟩
    · exact ⟨rfl, rfl, .append (by decide) hold⟩
    · exact ⟨rfl, rfl, .append (by decide) hpath⟩

theorem isNote_indexLines {s : PrintedSection} (h : s.WellFormed) :
    ∀ l ∈ s.indexLines, IsNote l := by
  intro l hl
  obtain ⟨t, ht, rfl⟩ := List.mem_map.mp hl
  exact ⟨rfl, rfl, .append (by decide) (h.notes t (by simp [notes, Option.mem_toList.mp ht]))⟩

theorem unbroken_labels {s : PrintedSection} (h : s.WellFormed) :
    s.edit.oldLabel.Unbroken ∧ s.edit.newLabel.Unbroken := by
  constructor
  · unfold PrintedEdit.oldLabel
    split
    · decide
    · exact .append (by decide) h.oldPath.unbroken
  · unfold PrintedEdit.newLabel
    split
    · decide
    · exact .append (by decide) h.path.unbroken

theorem unbroken_labelLine {mark label : Text} (hmark : mark.Unbroken) (h : label.Unbroken) :
    (labelLine mark label).Unbroken := by
  unfold labelLine
  refine .append (.append hmark (.append (t := [' ']) (by decide) h)) ?_
  split <;> decide

theorem isNote_bodyLines {s : PrintedSection} (h : s.WellFormed) :
    ∀ l ∈ s.bodyLines, IsNote l := by
  obtain ⟨hold, hnew⟩ := unbroken_labels h
  unfold bodyLines
  cases s.body with
  | nothing => simp
  | binary =>
    intro l hl
    obtain rfl := List.mem_singleton.mp hl
    exact ⟨rfl, rfl, .append (.append (.append (.append (by decide) hold) (by decide)) hnew)
      (by decide)⟩
  | hunks patch =>
    intro l hl
    simp only [List.mem_cons, List.not_mem_nil, or_false] at hl
    rcases hl with rfl | rfl
    · exact ⟨rfl, rfl, unbroken_labelLine (by decide) hold⟩
    · exact ⟨rfl, rfl, unbroken_labelLine (by decide) hnew⟩

theorem isNote_opening {s : PrintedSection} (h : s.WellFormed) : ∀ l ∈ s.opening, IsNote l := by
  intro l hl
  simp only [opening, List.mem_append] at hl
  rcases hl with ((hl | hl) | hl) | hl
  · exact isNote_modeLines h l hl
  · exact isNote_editLines h l hl
  · exact isNote_indexLines h l hl
  · exact isNote_bodyLines h l hl

theorem head?_dropReturn {l : Text} {c : Char} (h : l.head? = some c) (hc : c ≠ '\r') :
    (Text.dropReturn l).head? = some c := by
  obtain ⟨t, rfl⟩ := List.head?_eq_some_iff.mp h
  rw [Text.dropReturn_cons (.inl hc), List.head?_cons]

def patchLines (s : PrintedSection) : List Text := s.patch.map Text.dropReturn

theorem not_isOpening_of_head {l : Text} (h : l.head? ≠ some 'd') :
    Section.isOpening l = false := by
  cases l with
  | nil => rfl
  | cons c l =>
    have hc : ('d' == c) = false := by
      rw [List.head?_cons, ne_eq, Option.some.injEq] at h
      simpa using Ne.symm h
    have hmark : Section.openingMark = 'd' :: "iff --git ".toList := rfl
    rw [Section.isOpening, hmark, List.isPrefixOf, hc, Bool.false_and]

theorem patch_of_not_hasPatch {s : PrintedSection} (h : s.hasPatch = false) : s.patch = [] := by
  unfold patch
  unfold hasPatch at h
  cases hbody : s.body with
  | nothing => rfl
  | binary => rfl
  | hunks patch => simp [hbody] at h

theorem patchLines_head {s : PrintedSection} (h : s.WellFormed) :
    ∀ l ∈ s.patchLines.head?, Hunk.isHeaderLine l = true := by
  intro l hl
  rw [patchLines, List.head?_map] at hl
  obtain ⟨first, hfirst, rfl⟩ := Option.map_eq_some_iff.mp hl
  cases hpatch : s.hasPatch with
  | false => simp [patch_of_not_hasPatch hpatch] at hfirst
  | true =>
    have hbegins := (h.patch hpatch).begins
    rw [hfirst, Option.any_some] at hbegins
    exact Hunk.isHeaderLine_dropReturn hbegins

theorem isPrintedPatch_of_mem {s : PrintedSection} (h : s.WellFormed) {l : Text}
    (hl : l ∈ s.patch) : IsPrintedPatch s.patch := by
  apply h.patch
  by_contra hpatch
  rw [patch_of_not_hasPatch (by simpa using hpatch)] at hl
  cases hl

theorem patchLines_marked {s : PrintedSection} (h : s.WellFormed) :
    ∀ l ∈ s.patchLines, ∃ c ∈ patchMarks, l.head? = some c := by
  intro l hl
  obtain ⟨line, hline, rfl⟩ := List.mem_map.mp hl
  have hmarked := (isPrintedPatch_of_mem h hline).marked line hline
  obtain ⟨c, hhead, hc⟩ := (Option.any_eq_true _ _).mp hmarked
  have hmem : c ∈ patchMarks := by simpa using hc
  have hreturn : c ≠ '\r' := by
    rintro rfl
    exact absurd hmem (by decide)
  exact ⟨c, hmem, head?_dropReturn hhead hreturn⟩

theorem not_isOpening_patchLines {s : PrintedSection} (h : s.WellFormed) :
    ∀ l ∈ s.patchLines, Section.isOpening l = false := by
  intro l hl
  obtain ⟨c, hc, hhead⟩ := patchLines_marked h l hl
  apply not_isOpening_of_head
  rw [hhead]
  rintro ⟨⟩
  exact absurd hc (by decide)

theorem unbroken_title {s : PrintedSection} (h : s.WellFormed) :
    Text.Unbroken (Section.openingMark ++ s.titlePaths) :=
  .append (by decide)
    (.append (.append (.append (by decide) h.oldPath.unbroken) (by decide)) h.path.unbroken)

theorem newline_not_mem_lines {s : PrintedSection} (h : s.WellFormed) :
    ∀ l ∈ s.lines, '\n' ∉ l := by
  refine List.forall_mem_cons.mpr ⟨(unbroken_title h).1, ?_⟩
  intro l hl
  rcases List.mem_append.mp hl with hl | hl
  · exact (isNote_opening h l hl).unbroken.1
  · exact (isPrintedPatch_of_mem h hl).newline l hl

theorem lines_map_dropReturn {s : PrintedSection} (h : s.WellFormed) :
    s.lines.map Text.dropReturn =
      (Section.openingMark ++ s.titlePaths) :: (s.opening ++ s.patchLines) := by
  have hopening : s.opening.map Text.dropReturn = s.opening := by
    apply Text.map_dropReturn_eq_self
    intro l hl
    exact Text.dropReturn_of_not_mem (isNote_opening h l hl).unbroken.2
  rw [lines, List.map_cons, List.map_append, hopening, patchLines,
    Text.dropReturn_of_not_mem (unbroken_title h).2]

end PrintedSection

namespace Section

theorem isOpening_append (rest : Text) : isOpening (openingMark ++ rest) = true :=
  List.isPrefixOf_iff_prefix.mpr (List.prefix_append _ _)

theorem ofLines_block (rest : Text) {block ls : List Text}
    (hblock : ∀ l ∈ block, isOpening l = false) (hls : ∀ l ∈ ls.head?, isOpening l = true) :
    ofLines ((openingMark ++ rest) :: (block ++ ls)) = read rest block :: ofLines ls := by
  rw [ofLines, takeWhile_append_stop hblock hls, dropWhile_append_stop hblock hls,
    List.drop_left]

theorem read_split (rest : Text) {opening patch : List Text}
    (hopening : ∀ l ∈ opening, Hunk.isHeaderLine l = false)
    (hpatch : ∀ l ∈ patch.head?, Hunk.isHeaderLine l = true) :
    read rest (opening ++ patch) = ((ofOpening rest).readOpening opening).toChange patch := by
  rw [read, takeWhile_append_stop hopening hpatch, dropWhile_append_stop hopening hpatch]

theorem ofLines_printed {sections : List PrintedSection} (h : ∀ s ∈ sections, s.WellFormed) :
    ofLines (sections.flatMap fun s => s.lines.map Text.dropReturn) =
      sections.map fun s => s.opened.toChange s.patchLines := by
  induction sections with
  | nil => rw [List.flatMap_nil, ofLines, List.map_nil]
  | cons s sections ih =>
    obtain ⟨hs, hrest⟩ := List.forall_mem_cons.mp h
    have hblock : ∀ l ∈ s.opening ++ s.patchLines, isOpening l = false := by
      intro l hl
      rcases List.mem_append.mp hl with hl | hl
      · exact (PrintedSection.isNote_opening hs l hl).opening
      · exact PrintedSection.not_isOpening_patchLines hs l hl
    -- the section ends where the next one is opened
    have hnext : ∀ l ∈ (sections.flatMap fun s => s.lines.map Text.dropReturn).head?,
        isOpening l = true := by
      cases sections with
      | nil => simp
      | cons next sections =>
        rw [List.flatMap_cons, PrintedSection.lines_map_dropReturn (hrest next List.mem_cons_self)]
        rintro l ⟨⟩
        exact isOpening_append _
    rw [List.flatMap_cons, PrintedSection.lines_map_dropReturn hs, List.cons_append,
      ofLines_block _ hblock hnext, ih hrest, List.map_cons,
      read_split _ (fun l hl => (PrintedSection.isNote_opening hs l hl).header)
        (PrintedSection.patchLines_head hs)]
    rfl

end Section

def printedDiff (sections : List PrintedSection) : Text :=
  Text.unlines (sections.flatMap PrintedSection.lines)

theorem FileChange.ofDiff_printed {sections : List PrintedSection}
    (h : ∀ s ∈ sections, s.WellFormed) :
    FileChange.ofDiff (printedDiff sections) =
      sections.map fun s => s.opened.toChange s.patchLines := by
  have hlines : (printedDiff sections).lines =
      sections.flatMap fun s => s.lines.map Text.dropReturn := by
    rw [printedDiff, Text.lines_unlines_of_newline, List.map_flatMap]
    intro l hl
    obtain ⟨s, hs, hl⟩ := List.mem_flatMap.mp hl
    exact PrintedSection.newline_not_mem_lines (h s hs) l hl
  have hfront : (sections.flatMap fun s => s.lines.map Text.dropReturn).dropWhile
      (! Section.isOpening ·) = sections.flatMap fun s => s.lines.map Text.dropReturn := by
    cases sections with
    | nil => rfl
    | cons s sections =>
      rw [List.flatMap_cons, PrintedSection.lines_map_dropReturn (h s List.mem_cons_self),
        List.cons_append, List.dropWhile_cons_of_neg]
      simp [Section.isOpening_append]
  rw [FileChange.ofDiff, hlines, hfront, Section.ofLines_printed h]

namespace PrintedSection

/-- No path holds a space, and no line of the patch ends in a carriage return. -/
structure Plain (s : PrintedSection) : Prop extends s.WellFormed where
  oldPath_space : ' ' ∉ s.edit.oldPath
  path_space : ' ' ∉ s.edit.path
  patch_return : ∀ l ∈ s.patch, l.getLast? ≠ some '\r'

def change (s : PrintedSection) : FileChange :=
  { filename := s.edit.path
    kind := s.edit.kind
    oldFilename := if s.edit.kind = .renamed then some s.edit.oldPath else none
    patch := Text.joinLines s.patch }

theorem cutLast?_of_no_space {p : Text} (h : ' ' ∉ p) : Text.cutLast? " b/".toList p = none := by
  cases hcut : Text.cutLast? " b/".toList p with
  | none => rfl
  | some parts =>
    refine absurd ?_ h
    rw [Text.eq_of_cutLast? hcut]
    simp

theorem tabbed_of_no_space {p : Text} (h : ' ' ∉ p) : tabbed p = p := if_neg h

theorem read_paths_of_plain {s : PrintedSection} (h : s.Plain) :
    s.readOld = s.edit.oldPath ∧ s.readNew = s.edit.path := by
  have hcut := cutLast?_of_no_space h.path_space
  have htitleOld : s.titleOld = s.edit.oldPath := by rw [titleOld, hcut]
  have htitleNew : s.titleNew = s.edit.path := by rw [titleNew, hcut]
  constructor
  · rw [readOld, namedOld, tabbed_of_no_space h.oldPath_space, htitleOld, ite_self, ite_self]
  · rw [readNew, namedNew, tabbed_of_no_space h.path_space, htitleNew, ite_self, ite_self]

theorem patchLines_of_plain {s : PrintedSection} (h : s.Plain) : s.patchLines = s.patch := by
  apply Text.map_dropReturn_eq_self
  intro l hl
  exact if_neg (h.patch_return l hl)

theorem toChange_opened {s : PrintedSection} (h : s.Plain) :
    s.opened.toChange s.patchLines = s.change := by
  obtain ⟨hold, hnew⟩ := read_paths_of_plain h
  rw [opened_eq h.toWellFormed, patchLines_of_plain h, hold, hnew, Section.toChange, change]
  congr 1
  rw [Section.filename]
  cases hedit : s.edit <;> rfl

end PrintedSection

/-- A printed diff without spaces in its paths is read back: one change for each section, in order,
with its paths, its kind and its patch. -/
theorem FileChange.ofDiff_plain {sections : List PrintedSection}
    (h : ∀ s ∈ sections, s.Plain) :
    ofDiff (printedDiff sections) = sections.map PrintedSection.change := by
  rw [ofDiff_printed fun s hs => (h s hs).toWellFormed]
  apply List.map_congr_left
  intro s hs
  exact PrintedSection.toChange_opened (h s hs)

instance (s : PrintedSection) : Decidable s.Plain :=
  decidable_of_iff (_ ∧ _ ∧ _ ∧ _)
    ⟨fun h => ⟨h.1, h.2.1, h.2.2.1, h.2.2.2⟩,
      fun h => ⟨h.toWellFormed, h.oldPath_space, h.path_space, h.patch_return⟩⟩

def Sample.printed : List PrintedSection :=
  [{ edit := .renamed "a".toList "b/b".toList 50
     modes := some ("100644".toList, "100755".toList)
     body := .hunks ["@@ -1,2 +1,2 @@".toList, "--- a/x".toList, "+++ /dev/null".toList,
       " diff --git a/x b/x".toList] },
    { edit := .added "c".toList "100644".toList, index := some "0..1".toList, body := .binary },
    { edit := .modified "d".toList, modes := some ("100644".toList, "100755".toList) },
    { edit := .deleted "e".toList "100644".toList
      body := .hunks ["@@ -1 +0,0 @@".toList, "-e".toList, "\\ No newline".toList] }]

example : printedDiff (Sample.printed.drop 3) =
    ("diff --git a/e b/e\ndeleted file mode 100644\n--- a/e\n+++ /dev/null\n" ++
      "@@ -1 +0,0 @@\n-e\n\\ No newline\n").toList := by decide +kernel

theorem FileChange.ofDiff_plain_of_printed :
    (∀ s ∈ Sample.printed, s.Plain) ∧
      ofDiff (printedDiff Sample.printed) = Sample.printed.map PrintedSection.change := by
  have hplain : ∀ s ∈ Sample.printed, s.Plain := by decide +kernel
  exact ⟨hplain, ofDiff_plain hplain⟩

end DiffBudget
