import DiffBudget.Proofs.Change.MultiFile
import DiffBudget.Proofs.Hunk.Header
import DiffBudget.Proofs.Patch.Reading
import DiffBudget.Proofs.Text.Joined
import DiffBudget.Snapshot.DiffText

/-!
# Printed sections and what is read from them

A printed section names both paths in its first line, then tells of the edit, and names the paths
again in front of its hunks. It is read by itself, wherever it stands in a diff: its name and kind
come from the lines above the patch, and the patch is all that is behind them.
-/
namespace DiffBudget

def Path.IsBare (p : Text) : Prop := ∀ c ∈ p, Path.escape c = [c]

instance (p : Text) : Decidable (Path.IsBare p) := List.decidableBAll _ p

theorem Path.IsBare.not_mem {p : Text} (h : IsBare p) {c : Char} (hc : escape c ≠ [c]) :
    c ∉ p := fun hmem => hc (h c hmem)

def Text.Unbroken (t : Text) : Prop := '\n' ∉ t ∧ '\r' ∉ t

instance (t : Text) : Decidable t.Unbroken := inferInstanceAs (Decidable (_ ∧ _))

theorem Text.Unbroken.append {t u : Text} (ht : t.Unbroken) (hu : u.Unbroken) :
    Text.Unbroken (t ++ u) := by
  simp [Text.Unbroken, ht.1, ht.2, hu.1, hu.2]

theorem Path.IsBare.unbroken {p : Text} (h : IsBare p) : p.Unbroken :=
  ⟨h.not_mem (by decide), h.not_mem (by decide)⟩

theorem Path.IsBare.backslash {p : Text} (h : IsBare p) : '\\' ∉ p := h.not_mem (by decide)

inductive PrintedEdit
  | added (path mode : Text)
  | deleted (path mode : Text)
  | modified (path : Text)
  | renamed (oldPath path : Text) (percent : Nat)
  deriving DecidableEq, Repr

namespace PrintedEdit

def kind : PrintedEdit → EditKind
  | added .. => .added
  | deleted .. => .deleted
  | modified _ => .modified
  | renamed .. => .renamed

def path : PrintedEdit → Text
  | added path _ => path
  | deleted path _ => path
  | modified path => path
  | renamed _ path _ => path

def oldPath : PrintedEdit → Text
  | renamed oldPath _ _ => oldPath
  | e => e.path

def mode : PrintedEdit → Text
  | added _ mode => mode
  | deleted _ mode => mode
  | _ => []

def lines : PrintedEdit → List Text
  | added _ mode => ["new file mode ".toList ++ mode]
  | deleted _ mode => ["deleted file mode ".toList ++ mode]
  | modified _ => []
  | renamed oldPath path percent =>
    ["similarity index ".toList ++ Text.ofNat percent ++ ['%'], "rename from ".toList ++ oldPath,
      "rename to ".toList ++ path]

def oldLabel (e : PrintedEdit) : Text :=
  if e.kind = .added then Section.devNull else "a/".toList ++ e.oldPath

def newLabel (e : PrintedEdit) : Text :=
  if e.kind = .deleted then Section.devNull else "b/".toList ++ e.path

end PrintedEdit

inductive PrintedBody
  | nothing
  | binary
  | hunks (patch : List Text)
  deriving DecidableEq, Repr

structure PrintedSection where
  edit : PrintedEdit
  modes : Option (Text × Text) := none
  index : Option Text := none
  body : PrintedBody := .nothing
  deriving DecidableEq, Repr

namespace PrintedSection

open DiffText.FileDiff (labelLine)

def titlePaths (s : PrintedSection) : Text :=
  "a/".toList ++ s.edit.oldPath ++ " b/".toList ++ s.edit.path

def modeLines (s : PrintedSection) : List Text :=
  match s.modes with
  | some (old, new) => ["old mode ".toList ++ old, "new mode ".toList ++ new]
  | none => []

def indexLines (s : PrintedSection) : List Text :=
  s.index.toList.map ("index ".toList ++ ·)

def bodyLines (s : PrintedSection) : List Text :=
  match s.body with
  | .nothing => []
  | .binary =>
    ["Binary files ".toList ++ s.edit.oldLabel ++ " and ".toList ++ s.edit.newLabel ++
      " differ".toList]
  | .hunks _ => [labelLine "---".toList s.edit.oldLabel, labelLine "+++".toList s.edit.newLabel]

def opening (s : PrintedSection) : List Text :=
  s.modeLines ++ s.edit.lines ++ s.indexLines ++ s.bodyLines

def hasPatch (s : PrintedSection) : Bool := s.body matches .hunks _

def patch (s : PrintedSection) : List Text :=
  match s.body with
  | .hunks patch => patch
  | _ => []

def lines (s : PrintedSection) : List Text :=
  (Section.openingMark ++ s.titlePaths) :: (s.opening ++ s.patch)

def notes (s : PrintedSection) : List Text :=
  s.edit.mode :: (s.modes.toList.flatMap fun m => [m.1, m.2]) ++ s.index.toList

end PrintedSection

def patchMarks : List Char := ['@', ' ', '+', '-', '\\']

structure IsPrintedPatch (patch : List Text) : Prop where
  begins : patch.head?.any Hunk.isHeaderLine = true
  marked : ∀ l ∈ patch, l.head?.any patchMarks.contains = true
  newline : ∀ l ∈ patch, '\n' ∉ l

instance (patch : List Text) : Decidable (IsPrintedPatch patch) :=
  decidable_of_iff (_ ∧ _ ∧ _)
    ⟨fun h => ⟨h.1, h.2.1, h.2.2⟩, fun h => ⟨h.begins, h.marked, h.newline⟩⟩

structure PrintedSection.WellFormed (s : PrintedSection) : Prop where
  oldPath : Path.IsBare s.edit.oldPath
  path : Path.IsBare s.edit.path
  notes : ∀ t ∈ s.notes, t.Unbroken
  patch : s.hasPatch = true → IsPrintedPatch s.patch

instance (s : PrintedSection) : Decidable s.WellFormed :=
  decidable_of_iff (_ ∧ _ ∧ _ ∧ _)
    ⟨fun h => ⟨h.1, h.2.1, h.2.2.1, h.2.2.2⟩, fun h => ⟨h.oldPath, h.path, h.notes, h.patch⟩⟩

namespace Text

theorem lines_unlines_of_newline {ls : List Text} (h : ∀ l ∈ ls, '\n' ∉ l) :
    lines (unlines ls) = ls.map dropReturn := by
  induction ls with
  | nil => rfl
  | cons l ls ih =>
    obtain ⟨hl, hls⟩ := List.forall_mem_cons.mp h
    rw [unlines_cons, lines_append_newline hl, ih hls, List.map_cons]

theorem eq_of_cutLast? {mark t front back : Text} (h : cutLast? mark t = some (front, back)) :
    t = front ++ (mark ++ back) := by
  induction t generalizing front with
  | nil => cases h
  | cons c t ih =>
    rw [cutLast?] at h
    cases hcut : cutLast? mark t with
    | some parts =>
      rw [hcut] at h
      cases h
      rw [ih hcut, List.cons_append]
    | none =>
      rw [hcut] at h
      obtain ⟨rest, hrest, hparts⟩ := Option.map_eq_some_iff.mp h
      cases hparts
      exact (List.isPrefixOf?_eq_some_iff_append_eq.mp hrest).symm

theorem cutLast?_append {mark t front back : Text} (h : cutLast? mark t = some (front, back))
    (lead : Text) : cutLast? mark (lead ++ t) = some (lead ++ front, back) := by
  induction lead with
  | nil => exact h
  | cons c lead ih => rw [List.cons_append, cutLast?, ih]; rfl

end Text

namespace Section

theorem slashed_eq_self {p : Text} (hback : '\\' ∉ p) : slashed p = p := by
  have hkept : ∀ c ∈ p, (if c = '\\' then '/' else c) = id c := by
    intro c hc
    have hne : c ≠ '\\' := by
      rintro rfl
      exact hback hc
    rw [if_neg hne, id]
  rw [slashed, List.map_congr_left hkept, List.map_id]

/-! ## Opening lines -/

@[simp] theorem ofLine_similarity (t : Text) :
    OpeningLine.ofLine ("similarity index ".toList ++ t) = .other := rfl

@[simp] theorem ofLine_renameFrom (p : Text) :
    OpeningLine.ofLine ("rename from ".toList ++ p) = .renameFrom p := rfl

@[simp] theorem ofLine_renameTo (p : Text) :
    OpeningLine.ofLine ("rename to ".toList ++ p) = .renameTo p := rfl

@[simp] theorem ofLine_binary (t : Text) :
    OpeningLine.ofLine ("Binary files ".toList ++ t) = .other := rfl

@[simp] theorem ofLine_oldSide (p : Text) :
    OpeningLine.ofLine ("---".toList ++ ' ' :: p) = .oldSide p := rfl

@[simp] theorem ofLine_newSide (p : Text) :
    OpeningLine.ofLine ("+++".toList ++ ' ' :: p) = .newSide p := rfl

theorem readOpening_append (s : Section) (front back : List Text) :
    s.readOpening (front ++ back) = (s.readOpening front).readOpening back :=
  List.foldl_append

theorem readOpening_cons (s : Section) (line : Text) (ls : List Text) :
    s.readOpening (line :: ls) = (s.step (.ofLine line)).readOpening ls := rfl

theorem readOpening_nil (s : Section) : s.readOpening [] = s := rfl

/-! ## The paths of a title -/

theorem cutLast?_title {back : Text} (h : Text.cutLast? " b/".toList back = none) (front : Text) :
    Text.cutLast? " b/".toList (front ++ (" b/".toList ++ back)) = some (front, back) := by
  have hcut : Text.cutLast? " b/".toList (' ' :: 'b' :: '/' :: back) = some ([], back) := by
    rw [Text.cutLast?, Text.cutLast?, Text.cutLast?, h]
    rfl
  have hlead := Text.cutLast?_append hcut front
  rwa [List.append_nil] at hlead

end Section

namespace PrintedSection

open DiffText.FileDiff (labelLine)

/-- The old path of a title: all in front of the last mark that could part the two paths. -/
def titleOld (s : PrintedSection) : Text :=
  match Text.cutLast? " b/".toList s.edit.path with
  | some (front, _) => s.edit.oldPath ++ (" b/".toList ++ front)
  | none => s.edit.oldPath

def titleNew (s : PrintedSection) : Text :=
  match Text.cutLast? " b/".toList s.edit.path with
  | some (_, back) => back
  | none => s.edit.path

theorem cutLast?_titlePaths (s : PrintedSection) :
    Text.cutLast? " b/".toList s.titlePaths = some ("a/".toList ++ s.titleOld, s.titleNew) := by
  have htitle : s.titlePaths =
      ("a/".toList ++ s.edit.oldPath) ++ (" b/".toList ++ s.edit.path) := by simp [titlePaths]
  rw [htitle]
  cases hcut : Text.cutLast? " b/".toList s.edit.path with
  | none => simp only [Section.cutLast?_title hcut, titleOld, titleNew, hcut]
  | some parts =>
    have hlead := Text.cutLast?_append hcut
      (("a/".toList ++ s.edit.oldPath) ++ " b/".toList)
    simp only [List.append_assoc] at hlead
    simp only [List.append_assoc, hlead, titleOld, titleNew, hcut]

theorem ofOpening_titlePaths (s : PrintedSection) :
    Section.ofOpening s.titlePaths =
      { oldPath := some (Section.slashed s.titleOld)
        newPath := some (Section.slashed s.titleNew) } := by
  rw [Section.ofOpening, s.cutLast?_titlePaths]
  rfl

theorem isBare_of_subset {p q : Text} (h : Path.IsBare p) (hq : ∀ c ∈ q, c ∈ p) :
    Path.IsBare q := fun c hc => h c (hq c hc)

theorem titles_isBare {s : PrintedSection} (h : s.WellFormed) :
    Path.IsBare s.titleOld ∧ Path.IsBare s.titleNew := by
  cases hcut : Text.cutLast? " b/".toList s.edit.path with
  | none => exact ⟨by simpa only [titleOld, hcut] using h.oldPath,
      by simpa only [titleNew, hcut] using h.path⟩
  | some parts =>
    have hpath := Text.eq_of_cutLast? hcut
    have hmark : Path.IsBare " b/".toList := by decide
    have hfront : Path.IsBare parts.1 := isBare_of_subset h.path fun c hc => by
      rw [hpath]; exact List.mem_append_left _ hc
    have hback : Path.IsBare parts.2 := isBare_of_subset h.path fun c hc => by
      rw [hpath]; exact List.mem_append_right _ (List.mem_append_right _ hc)
    refine ⟨?_, by simpa only [titleNew, hcut] using hback⟩
    intro c hc
    simp only [titleOld, hcut, List.mem_append] at hc
    rcases hc with hc | hc | hc
    · exact h.oldPath c hc
    · exact hmark c hc
    · exact hfront c hc

/-- A path as the lines in front of the hunks give it: a space in it draws a tab behind it. -/
def tabbed (p : Text) : Text := if ' ' ∈ p then p ++ ['\t'] else p

def namedOld (s : PrintedSection) : Text :=
  if s.edit.kind = .renamed then s.edit.oldPath else s.titleOld

def namedNew (s : PrintedSection) : Text :=
  if s.edit.kind = .renamed then s.edit.path else s.titleNew

def readOld (s : PrintedSection) : Text :=
  if s.hasPatch ∧ s.edit.kind ≠ .added then tabbed s.edit.oldPath else s.namedOld

def readNew (s : PrintedSection) : Text :=
  if s.hasPatch ∧ s.edit.kind ≠ .deleted then tabbed s.edit.path else s.namedNew

def opened (s : PrintedSection) : Section :=
  (Section.ofOpening s.titlePaths).readOpening s.opening

theorem readOpening_modeLines (s : PrintedSection) (sec : Section) :
    sec.readOpening s.modeLines = sec := by
  unfold modeLines
  cases s.modes with
  | none => rfl
  | some modes => rfl

theorem readOpening_indexLines (s : PrintedSection) (sec : Section) :
    sec.readOpening s.indexLines = sec := by
  unfold indexLines
  cases s.index with
  | none => rfl
  | some index => rfl

theorem readOpening_editLines {s : PrintedSection} (h : s.WellFormed) :
    (Section.ofOpening s.titlePaths).readOpening s.edit.lines =
      { oldPath := some s.namedOld, newPath := some s.namedNew, kind := s.edit.kind } := by
  obtain ⟨hold, hnew⟩ := titles_isBare h
  rw [ofOpening_titlePaths, Section.slashed_eq_self hold.backslash,
    Section.slashed_eq_self hnew.backslash, namedOld,
    namedNew]
  have holdPath := Section.slashed_eq_self h.oldPath.backslash
  have hpath := Section.slashed_eq_self h.path.backslash
  cases hedit : s.edit with
  | added path mode => rfl
  | deleted path mode => rfl
  | modified path => rfl
  | renamed oldPath path percent =>
    rw [hedit] at holdPath hpath
    simp only [PrintedEdit.lines, List.append_assoc, Section.readOpening_cons,
      Section.ofLine_similarity, Section.ofLine_renameFrom, Section.ofLine_renameTo, Section.step]
    rw [show Section.slashed oldPath = oldPath from holdPath,
      show Section.slashed path = path from hpath]
    rfl

theorem labelLine_devNull (mark : Text) :
    labelLine mark Section.devNull = mark ++ ' ' :: Section.devNull := by
  rw [labelLine, if_neg (by decide), List.append_nil]

theorem labelLine_side (mark p : Text) {letter : Text} (hletter : ' ' ∉ letter) :
    labelLine mark (letter ++ p) = mark ++ ' ' :: (letter ++ tabbed p) := by
  have hspace : (letter ++ p).contains ' ' = true ↔ ' ' ∈ p := by simp [hletter]
  by_cases hp : ' ' ∈ p
  · rw [labelLine, if_pos (hspace.mpr hp), tabbed, if_pos hp]
    simp
  · rw [labelLine, if_neg (mt hspace.mp hp), tabbed, if_neg hp, List.append_nil]

theorem slashed_tabbed {p : Text} (h : Path.IsBare p) : Section.slashed (tabbed p) = tabbed p := by
  apply Section.slashed_eq_self
  unfold tabbed
  split
  · simp [h.backslash]
  · exact h.backslash

theorem sidePath_tabbed (letter : Text) {p : Text} (h : Path.IsBare p) (known : Option Text) :
    Section.sidePath letter (letter ++ tabbed p) known = some (tabbed p) := by
  rw [Section.sidePath, Text.isPrefixOf?_append]
  exact congrArg some (slashed_tabbed h)

theorem step_oldLabel {e : PrintedEdit} (h : Path.IsBare e.oldPath) {sec : Section}
    (hkind : sec.kind = e.kind) :
    sec.step (.ofLine (labelLine "---".toList e.oldLabel)) =
      if e.kind = .added then sec else { sec with oldPath := some (tabbed e.oldPath) } := by
  by_cases hadded : e.kind = .added
  · rw [PrintedEdit.oldLabel, if_pos hadded, labelLine_devNull, Section.ofLine_oldSide,
      Section.step, if_pos rfl, if_pos hadded, ← hadded, ← hkind]
  · have hside : "a/".toList ++ tabbed e.oldPath ≠ Section.devNull := by
      intro heq
      cases heq
    rw [PrintedEdit.oldLabel, if_neg hadded, labelLine_side _ _ (by decide),
      Section.ofLine_oldSide, Section.step, if_neg hside, sidePath_tabbed _ h, if_neg hadded]

theorem step_newLabel {e : PrintedEdit} (h : Path.IsBare e.path) {sec : Section}
    (hkind : sec.kind = e.kind) :
    sec.step (.ofLine (labelLine "+++".toList e.newLabel)) =
      if e.kind = .deleted then sec else { sec with newPath := some (tabbed e.path) } := by
  by_cases hdeleted : e.kind = .deleted
  · rw [PrintedEdit.newLabel, if_pos hdeleted, labelLine_devNull, Section.ofLine_newSide,
      Section.step, if_pos rfl, if_pos hdeleted, ← hdeleted, ← hkind]
  · have hside : "b/".toList ++ tabbed e.path ≠ Section.devNull := by
      intro heq
      cases heq
    rw [PrintedEdit.newLabel, if_neg hdeleted, labelLine_side _ _ (by decide),
      Section.ofLine_newSide, Section.step, if_neg hside, sidePath_tabbed _ h, if_neg hdeleted]

theorem opened_eq {s : PrintedSection} (h : s.WellFormed) : s.opened =
    { oldPath := some s.readOld, newPath := some s.readNew, kind := s.edit.kind } := by
  rw [opened, opening, Section.readOpening_append, Section.readOpening_append,
    Section.readOpening_append, readOpening_modeLines, readOpening_editLines h,
    readOpening_indexLines]
  unfold bodyLines readOld readNew hasPatch
  cases s.body with
  | nothing => rfl
  | binary =>
    simp only [List.append_assoc, Section.readOpening_cons, Section.ofLine_binary]
    simp [Section.readOpening_nil, Section.step]
  | hunks patch =>
    rw [Section.readOpening_cons, step_oldLabel h.oldPath rfl, Section.readOpening_cons,
      step_newLabel h.path (by split <;> rfl), Section.readOpening_nil]
    by_cases hadded : s.edit.kind = .added <;> by_cases hdeleted : s.edit.kind = .deleted <;>
      simp [hadded, hdeleted]

end PrintedSection
end DiffBudget
