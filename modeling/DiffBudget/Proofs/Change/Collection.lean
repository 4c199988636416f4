import DiffBudget.Change.Collected
import DiffBudget.Proofs.Change.Sections
import DiffBudget.Proofs.Change.Told
import DiffBudget.Proofs.Text.Joined
import DiffBudget.Proofs.Text.Table
import Mathlib.Data.List.Nodup

/-!
# The hunks of collected changes

A list of changed paths and a diff are told apart and joined by names. A collected change has the
patch of the last section that is read under its path, so it never has a line of another path. It
has all hunks of its own path exactly when no space draws a tab behind the path, only the last of
its sections has hunks, and no later section without hunks is read under its path.
-/
namespace DiffBudget

namespace PrintedSection

variable {s : PrintedSection} {p : Text}

def name (s : PrintedSection) : Text := if s.edit.kind = .deleted then s.readOld else s.readNew

def patchText (s : PrintedSection) : Text := Text.joinLines s.patchLines

theorem toChange_opened_name (h : s.WellFormed) :
    ((s.opened.toChange s.patchLines).filename, (s.opened.toChange s.patchLines).patch) =
      (s.name, s.patchText) := by
  rw [opened_eq h, Section.toChange, patchText, name]
  congr 1
  simp only [Section.filename]
  split <;> rfl

theorem patchLines_eq_nil_iff : s.patchLines = [] ↔ s.patch = [] := List.map_eq_nil_iff

theorem patchLines_ne_nil {sections : List PrintedSection} (h : ∀ s ∈ sections, s.WellFormed) :
    ∀ l ∈ sections.flatMap patchLines, l ≠ [] := by
  intro l hl
  obtain ⟨s, hs, hl⟩ := List.mem_flatMap.mp hl
  obtain ⟨c, -, hhead⟩ := patchLines_marked (h s hs) l hl
  rintro rfl
  cases hhead

theorem patchText_of_not_hasPatch (h : s.hasPatch = false) : s.patchText = [] := by
  rw [patchText, patchLines_eq_nil_iff.mpr (patch_of_not_hasPatch h), Text.joinLines_nil]

theorem name_of_hasPatch (h : s.hasPatch = true) : s.name = tabbed s.edit.path := by
  unfold name readOld readNew
  cases hedit : s.edit <;> simp [h, PrintedEdit.kind, PrintedEdit.oldPath, PrintedEdit.path]

theorem tabbed_eq_iff (hp : '\t' ∉ p) (q : Text) : tabbed q = p ↔ q = p ∧ ' ' ∉ p := by
  unfold tabbed
  split
  · rename_i hspace
    constructor
    · rintro rfl
      simp at hp
    · rintro ⟨rfl, hnone⟩
      exact absurd hspace hnone
  · rename_i hspace
    constructor
    · rintro rfl
      exact ⟨rfl, hspace⟩
    · exact fun h => h.1

/-- Without hunks, the section of an added or changed path is read under what stands behind the
last ` b/` of the path. -/
structure Displaces (s : PrintedSection) (p : Text) : Prop where
  hasPatch : s.hasPatch = false
  kind : s.edit.kind = .added ∨ s.edit.kind = .modified
  path : ∃ front, s.edit.path = front ++ (" b/".toList ++ p)

theorem cutLast?_of_title (hp : ' ' ∉ p) {q front : Text} (h : q = front ++ (" b/".toList ++ p)) :
    Text.cutLast? " b/".toList q = some (front, p) :=
  h ▸ Section.cutLast?_title (cutLast?_of_no_space hp) front

theorem titleNew_eq_iff (hp : ' ' ∉ p) (s : PrintedSection) :
    s.titleNew = p ↔ s.edit.path = p ∨ ∃ front, s.edit.path = front ++ (" b/".toList ++ p) := by
  unfold titleNew
  cases hcut : Text.cutLast? " b/".toList s.edit.path with
  | none =>
    refine ⟨.inl, fun h => h.resolve_right ?_⟩
    rintro ⟨front, hpath⟩
    rw [cutLast?_of_title hp hpath] at hcut
    cases hcut
  | some parts =>
    constructor
    · rintro rfl
      exact .inr ⟨parts.1, Text.eq_of_cutLast? hcut⟩
    · rintro (hpath | ⟨front, hpath⟩)
      · rw [hpath, cutLast?_of_no_space hp] at hcut
        cases hcut
      · rw [cutLast?_of_title hp hpath] at hcut
        cases hcut
        rfl

theorem titleOld_eq_iff (hp : ' ' ∉ p) (s : PrintedSection) (hold : s.edit.oldPath = s.edit.path) :
    s.titleOld = p ↔ s.edit.path = p := by
  unfold titleOld
  cases hcut : Text.cutLast? " b/".toList s.edit.path with
  | none => rw [hold]
  | some parts =>
    constructor
    · rintro rfl
      simp at hp
    · rintro rfl
      rw [cutLast?_of_no_space hp] at hcut
      cases hcut

theorem name_eq_iff (hp : ' ' ∉ p) (h : s.hasPatch = false) :
    s.name = p ↔ s.edit.path = p ∨ s.Displaces p := by
  have hdisplaces : s.Displaces p ↔ (s.edit.kind = .added ∨ s.edit.kind = .modified) ∧
      ∃ front, s.edit.path = front ++ (" b/".toList ++ p) :=
    ⟨fun hd => ⟨hd.kind, hd.path⟩, fun hd => ⟨h, hd.1, hd.2⟩⟩
  have hnew := titleNew_eq_iff hp s
  rw [hdisplaces]
  unfold name readOld readNew namedOld namedNew
  cases hedit : s.edit with
  | added path mode =>
    rw [hedit] at hnew
    simpa [h, PrintedEdit.kind] using hnew
  | deleted path mode =>
    have hold := titleOld_eq_iff hp s (by rw [hedit]; rfl)
    rw [hedit] at hold
    simpa [h, PrintedEdit.kind] using hold
  | modified path =>
    rw [hedit] at hnew
    simpa [h, PrintedEdit.kind] using hnew
  | renamed oldPath path percent => simp [h, PrintedEdit.kind]

/-! ## The section that is found under a path -/

def lastNamed (sections : List PrintedSection) (p : Text) : Option PrintedSection :=
  sections.reverse.find? (·.name == p)

theorem find?_patches {sections : List PrintedSection} (h : ∀ s ∈ sections, s.WellFormed)
    (p : Text) : (PathChange.patches (printedDiff sections)).find? p =
      (lastNamed sections p).map patchText := by
  have hentries : (FileChange.ofDiff (printedDiff sections)).map (fun c => (c.filename, c.patch)) =
      sections.map fun s => (s.name, s.patchText) := by
    rw [FileChange.ofDiff_printed h, List.map_map]
    apply List.map_congr_left
    intro s hs
    exact toChange_opened_name (h s hs)
  rw [PathChange.patches, TextTable.find?_ofList, hentries, ← List.map_reverse, List.find?_map,
    Option.map_map]
  rfl

theorem lastNamed_append (front back : List PrintedSection) (p : Text) :
    lastNamed (front ++ back) p = (lastNamed back p).or (lastNamed front p) := by
  rw [lastNamed, List.reverse_append, List.find?_append]
  rfl

end PrintedSection

namespace PathChange

variable {ε : Type} {before after : Text → Except ε Utf8.Bytes}

def Readable (before after : Text → Except ε Utf8.Bytes) (c : PathChange) : Prop :=
  (∃ old, c.oldContent before = .ok old) ∧ ∃ new, c.newContent after = .ok new

theorem collect_of_readable {cs : List PathChange} (hread : ∀ c ∈ cs, c.Readable before after)
    (hdistinct : (cs.map (·.path)).Nodup) (t : TextTable Text) :
    ∃ files, collect before after t cs = .ok files ∧
      files.map (fun f => (f.filename, f.patch)) =
        cs.map fun c => (c.path, (t.find? c.path).getD []) := by
  induction cs generalizing t with
  | nil => exact ⟨[], rfl, rfl⟩
  | cons c cs ih =>
    obtain ⟨⟨⟨old, hold⟩, new, hnew⟩, hrest⟩ := List.forall_mem_cons.mp hread
    obtain ⟨hpath, hpaths⟩ := List.nodup_cons.mp hdistinct
    obtain ⟨files, hfiles, hsame⟩ := ih hrest hpaths (t.erase c.path)
    refine ⟨_, by rw [collect, hold, hnew, hfiles]; rfl, ?_⟩
    rw [List.map_cons, List.map_cons, hsame]
    congr 1
    apply List.map_congr_left
    intro d hd
    -- what is taken out of the table is not looked up again
    have hne : c.path ≠ d.path := by
      intro heq
      exact hpath (List.mem_map.mpr ⟨d, hd, heq.symm⟩)
    rw [TextTable.find?_erase_of_ne _ hne]

end PathChange

namespace ToldChange

open PrintedSection (lastNamed patchText)

def diffOf (changes : List ToldChange) : Text := printedDiff (changes.flatMap sections)

def printedLines (c : ToldChange) : List Text := c.sections.flatMap (·.patch)

def hunkLines (c : ToldChange) : List Text := c.sections.flatMap (·.patchLines)

/-- All hunks of the path are collected, with these changes behind it. -/
def Kept (later : List ToldChange) (c : ToldChange) : Prop :=
  c.hunkLines = [] ∨ ' ' ∉ c.path ∧ (∀ s ∈ c.sections.dropLast, s.patch = []) ∧
    ∀ d ∈ later, ∀ s ∈ d.sections, ¬s.Displaces c.path

variable {changes : List ToldChange} {c : ToldChange} {place : Nat}

def foundPatch (changes : List ToldChange) (p : Text) : Text :=
  ((lastNamed (changes.flatMap sections) p).map patchText).getD []

theorem sections_wellFormed (h : ∀ c ∈ changes, c.WellFormed) :
    ∀ s ∈ changes.flatMap sections, s.WellFormed := by
  intro s hs
  obtain ⟨c, hc, hs⟩ := List.mem_flatMap.mp hs
  exact (h c hc).sections s hs

theorem of_lastNamed {s : PrintedSection} {p : Text}
    (h : lastNamed (changes.flatMap sections) p = some s) :
    s.name = p ∧ ∃ d ∈ changes, s ∈ d.sections := by
  refine ⟨by simpa using List.find?_some h, ?_⟩
  exact List.mem_flatMap.mp (List.mem_reverse.mp (List.mem_of_find?_eq_some h))

theorem lastNamed_eq_none_iff {p : Text} : lastNamed (changes.flatMap sections) p = none ↔
    ¬∃ d ∈ changes, ∃ s ∈ d.sections, s.name = p := by
  simp only [lastNamed, List.find?_eq_none, List.mem_reverse, beq_iff_eq, List.forall_mem_flatMap,
    not_exists, not_and]

theorem exists_last_section (c : ToldChange) :
    ∃ last ∈ c.sections, c.sections = c.sections.dropLast ++ [last] := by
  cases c with
  | single s => exact ⟨s, List.mem_singleton_self s, rfl⟩
  | retyped path old new => exact ⟨_, List.mem_cons_of_mem _ (List.mem_singleton_self _), rfl⟩

theorem tab_not_mem_path (h : c.WellFormed) : '\t' ∉ c.path := by
  obtain ⟨last, hmem, -⟩ := c.exists_last_section
  rw [← path_of_mem_sections hmem]
  exact (h.sections last hmem).path.not_mem (by decide)

theorem path_of_found {s : PrintedSection} (h : c.WellFormed) (hname : s.name = c.path)
    (hpatch : s.hasPatch = true) : s.edit.path = c.path ∧ ' ' ∉ c.path := by
  rw [PrintedSection.name_of_hasPatch hpatch] at hname
  exact (PrintedSection.tabbed_eq_iff (tab_not_mem_path h) _).mp hname

theorem lastNamed_sections (hspace : ' ' ∉ c.path) {last : PrintedSection}
    (hmem : last ∈ c.sections) (hlast : c.sections = c.sections.dropLast ++ [last]) :
    lastNamed c.sections c.path = some last := by
  have hpath := path_of_mem_sections hmem
  have hname : last.name = c.path := by
    cases hpatch : last.hasPatch with
    | true =>
      rw [PrintedSection.name_of_hasPatch hpatch, hpath, PrintedSection.tabbed_of_no_space hspace]
    | false => exact (PrintedSection.name_eq_iff hspace hpatch).mpr (.inl hpath)
  rw [hlast, PrintedSection.lastNamed_append]
  simp [lastNamed, hname]

theorem joinLines_hunkLines_iff (h : c.WellFormed) {last : PrintedSection}
    (hlast : c.sections = c.sections.dropLast ++ [last]) :
    last.patchText = Text.joinLines c.hunkLines ↔ ∀ s ∈ c.sections.dropLast, s.patch = [] := by
  have hsplit : c.hunkLines =
      c.sections.dropLast.flatMap (·.patchLines) ++ last.patchLines := by
    conv_lhs => rw [hunkLines, hlast, List.flatMap_append]
    simp
  have hne : ∀ l ∈ c.sections.dropLast.flatMap (·.patchLines), l ≠ [] :=
    PrintedSection.patchLines_ne_nil fun s hs => h.sections s ((List.dropLast_sublist _).subset hs)
  rw [hsplit, eq_comm, patchText, Text.joinLines_append_eq_iff hne, List.flatMap_eq_nil_iff]
  simp only [PrintedSection.patchLines_eq_nil_iff]

theorem hunkLines_eq (c : ToldChange) : c.hunkLines = c.printedLines.map Text.dropReturn :=
  List.map_flatMap.symm

theorem joinLines_hunkLines_eq_nil_iff (h : c.WellFormed) :
    Text.joinLines c.hunkLines = [] ↔ c.hunkLines = [] := by
  have hiff := Text.joinLines_append_eq_iff (PrintedSection.patchLines_ne_nil h.sections) []
  rwa [List.append_nil, Text.joinLines_nil] at hiff

section Found

variable (hwell : ∀ c ∈ changes, c.WellFormed) (hdistinct : (changes.map path).Nodup)

include hwell hdistinct

theorem patchText_of_other {d : ToldChange} {s : PrintedSection} (hc : c ∈ changes)
    (hd : d ∈ changes) (hne : d ≠ c) (hs : s ∈ d.sections) (hname : s.name = c.path) :
    s.patchText = [] := by
  apply PrintedSection.patchText_of_not_hasPatch
  by_contra hpatch
  have hpath := (path_of_found (hwell c hc) hname (by simpa using hpatch)).1
  rw [path_of_mem_sections hs] at hpath
  exact hne (List.inj_on_of_nodup_map hdistinct hd hc hpath)

theorem foundPatch_own (hc : c ∈ changes) :
    foundPatch changes c.path = [] ∨
      ∃ s ∈ c.sections, s.name = c.path ∧ foundPatch changes c.path = s.patchText := by
  unfold foundPatch
  cases hfound : lastNamed (changes.flatMap sections) c.path with
  | none => exact .inl rfl
  | some s =>
    obtain ⟨hname, d, hd, hs⟩ := of_lastNamed hfound
    by_cases hdc : d = c
    · subst hdc
      exact .inr ⟨s, hs, hname, rfl⟩
    · exact .inl (patchText_of_other hwell hdistinct hc hd hdc hs hname)

theorem length_foundPatch_le (hc : c ∈ changes) :
    (foundPatch changes c.path).length ≤ (Text.joinLines c.hunkLines).length := by
  rcases foundPatch_own hwell hdistinct hc with hfound | ⟨s, hs, -, hfound⟩
  · rw [hfound]
    exact Nat.zero_le _
  · rw [hfound]
    apply Text.length_joinLines_le_of_sublist
    exact List.sublist_flatten_of_mem (List.mem_map_of_mem hs)

theorem foundPatch_of_no_hunks (hc : c ∈ changes) (hnone : c.hunkLines = []) :
    foundPatch changes c.path = [] := by
  rcases foundPatch_own hwell hdistinct hc with hfound | ⟨s, hs, -, hfound⟩
  · exact hfound
  · have hpatch : s.patchLines = [] := List.flatMap_eq_nil_iff.mp hnone s hs
    rw [hfound, patchText, hpatch, Text.joinLines_nil]

theorem foundPatch_of_space (hc : c ∈ changes) (hspace : ' ' ∈ c.path) :
    foundPatch changes c.path = [] := by
  rcases foundPatch_own hwell hdistinct hc with hfound | ⟨s, hs, hname, hfound⟩
  · exact hfound
  · rw [hfound]
    apply PrintedSection.patchText_of_not_hasPatch
    by_contra hpatch
    exact (path_of_found (hwell c hc) hname (by simpa using hpatch)).2 hspace

end Found

section Split

variable {front back : List ToldChange} (hwell : ∀ d ∈ front ++ c :: back, d.WellFormed)
  (hdistinct : ((front ++ c :: back).map path).Nodup)

include hdistinct in
theorem ne_of_split {d : ToldChange} (hd : d ∈ front ∨ d ∈ back) : d ≠ c := by
  rintro rfl
  rw [List.map_append, List.map_cons, List.nodup_append] at hdistinct
  obtain ⟨-, hback, hfront⟩ := hdistinct
  rcases hd with hd | hd
  · exact hfront _ (List.mem_map_of_mem hd) _ List.mem_cons_self rfl
  · exact (List.nodup_cons.mp hback).1 (List.mem_map_of_mem hd)

theorem mem_of_side {d : ToldChange} (hd : d ∈ front ∨ d ∈ back) : d ∈ front ++ c :: back := by
  rcases hd with hd | hd
  · exact List.mem_append_left _ hd
  · exact List.mem_append_right _ (List.mem_cons_of_mem _ hd)

include hwell hdistinct

theorem side_patchText {d : ToldChange} {s : PrintedSection} (hd : d ∈ front ∨ d ∈ back)
    (hs : s ∈ d.sections) (hname : s.name = c.path) : s.patchText = [] :=
  patchText_of_other hwell hdistinct (List.mem_append_right _ List.mem_cons_self)
    (mem_of_side hd) (ne_of_split hdistinct hd) hs hname

theorem foundPatch_of_later (hlater : ∃ d ∈ back, ∃ s ∈ d.sections, s.name = c.path) :
    foundPatch (front ++ c :: back) c.path = [] := by
  have hsome : lastNamed (back.flatMap sections) c.path ≠ none :=
    fun hnone => lastNamed_eq_none_iff.mp hnone hlater
  obtain ⟨s, hfound⟩ := Option.ne_none_iff_exists'.mp hsome
  obtain ⟨hname, d, hd, hs⟩ := of_lastNamed hfound
  rw [foundPatch, List.flatMap_append, List.flatMap_cons, PrintedSection.lastNamed_append,
    PrintedSection.lastNamed_append, hfound]
  exact side_patchText hwell hdistinct (.inr hd) hs hname

theorem foundPatch_of_none_later (hlater : ¬∃ d ∈ back, ∃ s ∈ d.sections, s.name = c.path) :
    foundPatch (front ++ c :: back) c.path =
      ((lastNamed c.sections c.path).map patchText).getD [] := by
  rw [foundPatch, List.flatMap_append, List.flatMap_cons, PrintedSection.lastNamed_append,
    PrintedSection.lastNamed_append, lastNamed_eq_none_iff.mpr hlater, Option.none_or]
  cases hown : lastNamed c.sections c.path with
  | some s => rfl
  | none =>
    rw [Option.none_or]
    cases hfront : lastNamed (front.flatMap sections) c.path with
    | none => rfl
    | some s =>
      obtain ⟨hname, d, hd, hs⟩ := of_lastNamed hfront
      exact side_patchText hwell hdistinct (.inl hd) hs hname

theorem later_iff (hspace : ' ' ∉ c.path) :
    (∃ d ∈ back, ∃ s ∈ d.sections, s.name = c.path) ↔
      ∃ d ∈ back, ∃ s ∈ d.sections, s.Displaces c.path := by
  constructor
  · rintro ⟨d, hd, s, hs, hname⟩
    have hcwell := hwell c (List.mem_append_right _ List.mem_cons_self)
    have hpath : s.edit.path ≠ c.path := by
      rw [path_of_mem_sections hs]
      intro heq
      exact ne_of_split hdistinct (.inr hd) (List.inj_on_of_nodup_map hdistinct
        (mem_of_side (.inr hd)) (List.mem_append_right _ List.mem_cons_self) heq)
    have hpatch : s.hasPatch = false := by
      by_contra h
      exact hpath (path_of_found hcwell hname (by simpa using h)).1
    exact ⟨d, hd, s, hs, ((PrintedSection.name_eq_iff hspace hpatch).mp hname).resolve_left hpath⟩
  · rintro ⟨d, hd, s, hs, hdisplaces⟩
    exact ⟨d, hd, s, hs,
      (PrintedSection.name_eq_iff hspace hdisplaces.hasPatch).mpr (.inr hdisplaces)⟩

theorem foundPatch_iff :
    foundPatch (front ++ c :: back) c.path = Text.joinLines c.hunkLines ↔ c.Kept back := by
  have hc : c ∈ front ++ c :: back := List.mem_append_right _ List.mem_cons_self
  have hcwell := hwell c hc
  by_cases hnone : c.hunkLines = []
  · rw [hnone, Text.joinLines_nil]
    exact iff_of_true (foundPatch_of_no_hunks hwell hdistinct hc hnone) (.inl hnone)
  -- hunks show in the patch, so an empty one has lost them
  have hlost : foundPatch (front ++ c :: back) c.path = [] →
      foundPatch (front ++ c :: back) c.path ≠ Text.joinLines c.hunkLines := by
    intro hfound heq
    exact hnone ((joinLines_hunkLines_eq_nil_iff hcwell).mp (heq ▸ hfound))
  by_cases hspace : ' ' ∈ c.path
  · apply iff_of_false (hlost (foundPatch_of_space hwell hdistinct hc hspace))
    intro hkept
    exact (hkept.resolve_left hnone).1 hspace
  have hlater := later_iff hwell hdistinct hspace
  by_cases hdisplaced : ∃ d ∈ back, ∃ s ∈ d.sections, s.Displaces c.path
  · apply iff_of_false (hlost (foundPatch_of_later hwell hdistinct (hlater.mpr hdisplaced)))
    intro hkept
    obtain ⟨d, hd, s, hs, hdisplaces⟩ := hdisplaced
    exact (hkept.resolve_left hnone).2.2 d hd s hs hdisplaces
  · obtain ⟨last, hmem, hlast⟩ := c.exists_last_section
    rw [foundPatch_of_none_later hwell hdistinct (mt hlater.mp hdisplaced),
      lastNamed_sections hspace hmem hlast, Option.map_some, Option.getD_some,
      joinLines_hunkLines_iff hcwell hlast]
    constructor
    · intro hfirst
      refine .inr ⟨hspace, hfirst, ?_⟩
      intro d hd s hs hdisplaces
      exact hdisplaced ⟨d, hd, s, hs, hdisplaces⟩
    · intro hkept
      exact (hkept.resolve_left hnone).2.1

end Split

variable {ε : Type} {before after : Text → Except ε Utf8.Bytes}

/-- Told changes whose contents are found are collected, each with hunks of its own path only. All
of its hunks are there exactly when they are kept, up to carriage returns in front of line feeds. -/
theorem collected_hunks (hwell : ∀ c ∈ changes, c.WellFormed)
    (hdistinct : (changes.map path).Nodup)
    (hread : ∀ c ∈ changes, c.listed.Readable before after) :
    ∃ files, PathChange.collectAll before after (listOf changes) (diffOf changes) = .ok files ∧
      files.map (·.filename) = changes.map path ∧
      ∀ front c back, changes = front ++ c :: back → ∃ f, files[front.length]? = some f ∧
        (f.patch = [] ∨ ∃ s ∈ c.sections, f.patch = Text.joinLines s.patchLines) ∧
        (f.patch = Text.joinLines c.hunkLines ↔ c.Kept back) ∧
        (f.patch = Text.joinLines c.printedLines ↔
          c.Kept back ∧ ∀ l ∈ c.printedLines, l.getLast? ≠ some '\r') := by
  have hlisted : ∀ c ∈ changes.map listed, c.Readable before after := List.forall_mem_map.mpr hread
  have hpaths : (changes.map listed).map (·.path) = changes.map path := by
    rw [List.map_map]
    exact List.map_congr_left fun c _ => c.listed_path
  obtain ⟨files, hfiles, hsame⟩ := PathChange.collect_of_readable hlisted (hpaths ▸ hdistinct)
    (PathChange.patches (diffOf changes))
  have hfound : files.map (fun f => (f.filename, f.patch)) =
      changes.map fun c => (c.path, foundPatch changes c.path) := by
    rw [hsame, List.map_map]
    apply List.map_congr_left
    intro c _
    simp only [Function.comp_apply, listed_path, diffOf,
      PrintedSection.find?_patches (sections_wellFormed hwell), foundPatch]
  refine ⟨files, ?_, ?_, ?_⟩
  · rw [PathChange.collectAll, read_listOf hwell, hfiles]
  · have hnames := congrArg (List.map Prod.fst) hfound
    simpa [List.map_map, Function.comp_def] using hnames
  · rintro front c back rfl
    have hget := congrArg (·[front.length]?) hfound
    simp only [List.getElem?_map, List.getElem?_append_right (Nat.le_refl _), Nat.sub_self,
      List.getElem?_cons_zero, Option.map_some, Option.map_eq_some_iff, Prod.mk.injEq] at hget
    obtain ⟨f, hf, -, hpatch⟩ := hget
    have hc : c ∈ front ++ c :: back := List.mem_append_right _ List.mem_cons_self
    have hkept := foundPatch_iff hwell hdistinct
    have hle := length_foundPatch_le hwell hdistinct hc
    rw [hunkLines_eq] at hle
    refine ⟨f, hf, ?_⟩
    rw [hpatch]
    refine ⟨?_, hkept, ?_⟩
    · rcases foundPatch_own hwell hdistinct hc with hnone | ⟨s, hs, -, hown⟩
      · exact .inl hnone
      · exact .inr ⟨s, hs, hown⟩
    · rw [Text.eq_joinLines_iff hle, ← hunkLines_eq, hkept]

instance (c : ToldChange) : Decidable c.WellFormed :=
  decidable_of_iff (_ ∧ _) ⟨fun h => ⟨h.1, h.2⟩, fun h => ⟨h.sections, h.listedPaths⟩⟩

namespace Sample

def noContent (_ : Text) : Except Unit Utf8.Bytes := .ok []

def oneToTwo : PrintedBody :=
  .hunks ["@@ -1 +1 @@".toList, "-one".toList, "+two".toList]

def moved : ToldChange :=
  .single { edit := .renamed "a b".toList "c".toList 50, body := oneToTwo }

def linked : ToldChange :=
  .retyped "t".toList ⟨"100644".toList, none, .nothing⟩
    ⟨"120000".toList, none, .hunks ["@@ -0,0 +1 @@".toList, "+c".toList]⟩

def spaced : List ToldChange :=
  [.single { edit := .modified "a b".toList, body := oneToTwo }]

def retyped : List ToldChange :=
  [.retyped "t".toList ⟨"100644".toList, none, .hunks ["@@ -1 +0,0 @@".toList, "-one".toList]⟩
    ⟨"120000".toList, none, .hunks ["@@ -0,0 +1 @@".toList, "+two".toList]⟩]

def displaced : List ToldChange :=
  [.single { edit := .modified "c".toList, body := oneToTwo },
    .single { edit := .modified "z b/c".toList,
              modes := some ("100644".toList, "100755".toList) }]

def collectedPatches (changes : List ToldChange) : Except Unit (List Text) :=
  (PathChange.collectAll noContent noContent (listOf changes) (diffOf changes)).map
    (·.map (·.patch))

def printedPatches (changes : List ToldChange) : List Text :=
  changes.map fun c => Text.joinLines c.printedLines

example : diffOf displaced = ("diff --git a/c b/c\n--- a/c\n+++ b/c\n@@ -1 +1 @@\n-one\n+two\n" ++
    "diff --git a/z b/c b/z b/c\nold mode 100644\nnew mode 100755\n").toList := by decide

end Sample

/-- Not all hunks are collected: they are lost with a space in the path, for a deletion in front of
a creation, and under a later section that is read under their path. -/
theorem hunks_lost :
    (∀ changes ∈ [Sample.spaced, Sample.retyped, Sample.displaced],
      (∀ c ∈ changes, c.WellFormed) ∧ (changes.map path).Nodup) ∧
    (Sample.collectedPatches Sample.spaced = .ok [[]] ∧
      Sample.printedPatches Sample.spaced ≠ [[]]) ∧
    (Sample.collectedPatches Sample.retyped = .ok ["@@ -0,0 +1 @@\n+two".toList] ∧
      Sample.printedPatches Sample.retyped ≠ ["@@ -0,0 +1 @@\n+two".toList]) ∧
    (Sample.collectedPatches Sample.displaced = .ok [[], []] ∧
      Sample.printedPatches Sample.displaced ≠ [[], []]) := by
  refine ⟨by decide +kernel, ⟨?_, by decide⟩, ⟨?_, by decide⟩, ?_, by decide⟩ <;> decide +kernel

theorem collected_hunks_of_moved :
    (∀ c ∈ [Sample.moved, Sample.linked], c.WellFormed) ∧
      ([Sample.moved, Sample.linked].map path).Nodup ∧
      (∀ c ∈ [Sample.moved, Sample.linked],
        c.listed.Readable Sample.noContent Sample.noContent) ∧
      ∃ files first second, PathChange.collectAll Sample.noContent Sample.noContent
          (listOf [Sample.moved, Sample.linked]) (diffOf [Sample.moved, Sample.linked]) =
            .ok files ∧
        files[0]? = some first ∧ first.patch = "@@ -1 +1 @@\n-one\n+two".toList ∧
        files[1]? = some second ∧ second.patch = "@@ -0,0 +1 @@\n+c".toList := by
  have hwell : ∀ c ∈ [Sample.moved, Sample.linked], c.WellFormed := by decide +kernel
  have hdistinct : ([Sample.moved, Sample.linked].map path).Nodup := by decide +kernel
  have hread : ∀ c ∈ [Sample.moved, Sample.linked],
      c.listed.Readable Sample.noContent Sample.noContent := by
    intro c hc
    have hold : ∃ old, c.listed.oldContent Sample.noContent = .ok old := by
      unfold PathChange.oldContent
      split <;> exact ⟨[], rfl⟩
    have hnew : ∃ new, c.listed.newContent Sample.noContent = .ok new := by
      unfold PathChange.newContent
      split <;> exact ⟨[], rfl⟩
    exact ⟨hold, hnew⟩
  have hmoved : Sample.moved.Kept [Sample.linked] := by
    refine .inr ⟨by decide, by decide, fun d hd s hs hdisplaces => ?_⟩
    obtain rfl := List.mem_singleton.mp hd
    obtain ⟨front, hpath⟩ := hdisplaces.path
    have hspace : ' ' ∈ Sample.linked.path := by
      rw [← path_of_mem_sections hs, hpath]
      simp
    exact absurd hspace (by decide)
  have hlinked : Sample.linked.Kept [] := .inr ⟨by decide, by decide, by simp⟩
  obtain ⟨files, hfiles, -, hpatches⟩ := collected_hunks hwell hdistinct hread
  obtain ⟨first, hfirst, -, hfirstIff, -⟩ := hpatches [] Sample.moved [Sample.linked] rfl
  obtain ⟨second, hsecond, -, hsecondIff, -⟩ := hpatches [Sample.moved] Sample.linked [] rfl
  refine ⟨hwell, hdistinct, hread, files, first, second, hfiles, hfirst, ?_, hsecond, ?_⟩
  · rw [hfirstIff.mpr hmoved]
    decide
  · rw [hsecondIff.mpr hlinked]
    decide

end ToldChange
end DiffBudget
