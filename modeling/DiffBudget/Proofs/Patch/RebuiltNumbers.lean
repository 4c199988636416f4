import DiffBudget.Proofs.Assembly.Readiness
import DiffBudget.Proofs.Hunk.Numbering
import DiffBudget.Proofs.Patch.RebuiltDiff

/-!
# Line numbers of rebuilt patches

A patch is rebuilt from both versions with their ends settled, but its hunks are widened with the
lines of the old version as it is. A printed line is that of the new version with its end settled,
or it is one of the last lines of the old version, from the last one on that is not blank. So the
numbers are those of the new version, up to the last line that is not blank the lines are as well,
and from there on they may differ in the white space at their ends. Blank lines may follow, as many
as the old version ends with.
-/
namespace DiffBudget

open Text (SettlesTo)

namespace Hunk

theorem cut_of_settlesTo {ls shown : List Text} (h : SettlesTo ls shown) {first last : Nat}
    (hfirst : 1 ≤ first) (hlast : last ≤ max shown.length 1) :
    cut ls first last = cut shown first last := by
  refine List.ext_getElem? fun k => ?_
  simp only [cut, List.getElem?_take, List.getElem?_drop]
  split
  · exact h.front _ (by omega)
  · rfl

theorem replayFrom_settlesTo {ls shown : List Text} (h : SettlesTo ls shown) {hunks : List Hunk}
    {pos : Nat} (hpos : 1 ≤ pos) (hfirst : ∀ hunk ∈ hunks, hunk.oldFirst ≤ max shown.length 1) :
    SettlesTo (replayFrom ls pos hunks) (replayFrom shown pos hunks) := by
  induction hunks generalizing pos with
  | nil => exact h.drop (pos - 1)
  | cons hunk hunks ih =>
    obtain ⟨hhunk, hhunks⟩ := List.forall_mem_cons.mp hfirst
    rw [replayFrom, replayFrom, cut_of_settlesTo h hpos hhunk]
    exact (ih hunk.oldEnd_pos hhunks).append _

/-- A line that replaying leaves is there when the ends are settled, or comes from the end of the
old lines. -/
theorem replayFrom_settlesTo_source {ls shown : List Text} (h : SettlesTo ls shown)
    {hunks : List Hunk} {pos : Nat} (hpos : 1 ≤ pos) (hin : pos ≤ shown.length + 1)
    (hfirst : ∀ hunk ∈ hunks, hunk.oldFirst ≤ max shown.length 1)
    (hend : ∀ hunk ∈ hunks, hunk.oldEnd ≤ shown.length + 1) {k : Nat} {l : Text}
    (hget : (replayFrom ls pos hunks)[k]? = some l) :
    (replayFrom shown pos hunks)[k]? = some l ∨ ∃ m, shown.length ≤ m + 1 ∧
      k + shown.length = (replayFrom shown pos hunks).length + m ∧ ls[m]? = some l := by
  induction hunks generalizing pos k with
  | nil =>
    rw [replayFrom, List.getElem?_drop] at hget
    rw [replayFrom, List.getElem?_drop, List.length_drop]
    by_cases hfront : pos - 1 + k + 1 < shown.length
    · exact .inl (h.front _ hfront ▸ hget)
    · exact .inr ⟨pos - 1 + k, by omega, by omega, hget⟩
  | cons hunk hunks ih =>
    obtain ⟨hhunk, hhunks⟩ := List.forall_mem_cons.mp hfirst
    obtain ⟨hlast, hlater⟩ := List.forall_mem_cons.mp hend
    rw [replayFrom, cut_of_settlesTo h hpos hhunk] at hget
    rw [replayFrom]
    generalize cut shown pos hunk.oldFirst ++ BodyLine.newTexts hunk.body = front at hget ⊢
    by_cases hfront : k < front.length
    · rw [List.getElem?_append_left hfront] at hget ⊢
      exact .inl hget
    · rw [List.getElem?_append_right (Nat.le_of_not_lt hfront)] at hget ⊢
      rcases ih hunk.oldEnd_pos hlast hhunks hlater hget with hsame | ⟨m, hm, hplace, hold⟩
      · exact .inl hsame
      · exact .inr ⟨m, hm, by rw [List.length_append]; omega, hold⟩

theorem replay_settlesTo_source {ls shown : List Text} (h : SettlesTo ls shown) {hunks : List Hunk}
    (hfirst : ∀ hunk ∈ hunks, hunk.oldFirst ≤ max shown.length 1)
    (hend : ∀ hunk ∈ hunks, hunk.oldEnd ≤ shown.length + 1) {n : Nat} {l : Text} (hn : 1 ≤ n)
    (hget : (replay ls hunks)[n - 1]? = some l) :
    (replay shown hunks)[n - 1]? = some l ∨ ∃ m, shown.length ≤ m ∧ ls[m - 1]? = some l ∧
      n + shown.length = (replay shown hunks).length + m := by
  rcases replayFrom_settlesTo_source h (Nat.le_refl 1) (Nat.le_add_left 1 _) hfirst hend hget with
    hsame | ⟨m, hm, hplace, hold⟩
  · exact .inl hsame
  · exact .inr ⟨m + 1, hm, hold, by unfold replay; omega⟩

end Hunk

namespace FileChange

variable {f : FileChange} {old new : Text}

theorem parse_of_rebuilt {p : PreparedFile} (hblank : f.patchIsBlank = true)
    (hold : f.contentText .old = .ok (some old)) (hnew : f.contentText .new = .ok (some new))
    (hprepare : f.prepare = .ready p) : Patch.parse (Patch.rebuild old new) = .ok p.hunks := by
  have hpatch : f.patchText (some old) (some new) = some (Patch.rebuild old new) := by
    simp [patchText, hblank]
  rw [prepare_of_reads hold hnew hpatch] at hprepare
  cases hparse : Patch.parse (Patch.rebuild old new) with
  | ok hunks =>
    rw [hparse] at hprepare
    cases hprepare
    rfl
  | error e =>
    rw [hparse] at hprepare
    cases hprepare

/-- The printed line is that of the new version with its end settled, or one of the last lines of
the old version, with as many lines behind the settled ones as it has. In front of the last line
that is not blank it is the line of the new version, and up to the white space at its end from there
on. -/
structure ShownUpToEnd (old new : Text) (q : Nat × BodyLine) : Prop where
  pos : 1 ≤ q.1
  front : q.1 < (Patch.settledEnd new).lines.length → new.lines[q.1 - 1]? = some q.2.text
  trimmed : q.2.text.trimEnd = Text.trimEnd (new.lines[q.1 - 1]?.getD [])
  source : (Patch.settledEnd new).lines[q.1 - 1]? = some q.2.text ∨
    ∃ m, (Patch.settledEnd old).lines.length ≤ m ∧ old.lines[m - 1]? = some q.2.text ∧
      q.1 + (Patch.settledEnd old).lines.length = (Patch.settledEnd new).lines.length + m
  bound : q.1 + (Patch.settledEnd old).lines.length ≤
    (Patch.settledEnd new).lines.length + old.lines.length
  inside : old.lines.length - (Patch.settledEnd old).lines.length ≤
    new.lines.length - (Patch.settledEnd new).lines.length → q.1 ≤ new.lines.length
  settled : old.lines = (Patch.settledEnd old).lines →
    (Patch.settledEnd new).lines[q.1 - 1]? = some q.2.text

theorem shownUpToEnd_of_replayed {replayed : List Text} {q : Nat × BodyLine}
    (hold : SettlesTo old.lines (Patch.settledEnd old).lines)
    (hnew : SettlesTo new.lines (Patch.settledEnd new).lines)
    (hreplayed : SettlesTo replayed (Patch.settledEnd new).lines)
    (hsame : old.lines = (Patch.settledEnd old).lines → replayed = (Patch.settledEnd new).lines)
    (hpos : 1 ≤ q.1) (hget : replayed[q.1 - 1]? = some q.2.text)
    (hsource : (Patch.settledEnd new).lines[q.1 - 1]? = some q.2.text ∨
      ∃ m, (Patch.settledEnd old).lines.length ≤ m ∧ old.lines[m - 1]? = some q.2.text ∧
        q.1 + (Patch.settledEnd old).lines.length = (Patch.settledEnd new).lines.length + m) :
    ShownUpToEnd old new q := by
  have hbound : q.1 + (Patch.settledEnd old).lines.length ≤
      (Patch.settledEnd new).lines.length + old.lines.length := by
    rcases hsource with hline | ⟨m, -, hline, hplace⟩
    · have hlt := (List.getElem?_eq_some_iff.mp hline).1
      have hle := hold.length_le
      omega
    · have hlt := (List.getElem?_eq_some_iff.mp hline).1
      omega
  refine ⟨hpos, fun hlt => ?_, ?_, hsource, hbound, fun hdropped => ?_, fun hlines => ?_⟩
  · rw [hnew.front _ (by omega), ← hreplayed.front _ (by omega)]
    exact hget
  · have htrimmed := (hreplayed.trimmed (q.1 - 1)).trans (hnew.trimmed (q.1 - 1)).symm
    rwa [hget, Option.getD_some] at htrimmed
  · have hle := hnew.length_le
    omega
  · rwa [hsame hlines] at hget

/-- Where the headers of a rebuilt patch count their lines and no carriage return stands alone, the
printed numbers are those of the new version. -/
theorem rebuilt_line_numbers {p : PreparedFile} (hblank : f.patchIsBlank = true)
    (hold : f.contentText .old = .ok (some old)) (hnew : f.contentText .new = .ok (some new))
    (hreturns : old.ReturnsPaired ∧ new.ReturnsPaired) (hprepare : f.prepare = .ready p)
    (hcounted : ∀ h ∈ p.hunks, h.Counted) (before after : Nat) :
    let shown := Hunk.widen old.lines before after p.hunks
    (∀ filename, Rendering.numbered filename shown =
      Rendering.layout filename (shown.map Rendering.blockOf)) ∧
    ∀ h ∈ shown, ∀ q ∈ (Rendering.blockOf h).numbered, ShownUpToEnd old new q := by
  have hparse := parse_of_rebuilt hblank hold hnew hprepare
  obtain ⟨wf, hreplay, hfirst⟩ := Patch.rebuild_replays hreturns.1 hreturns.2 hparse hcounted
  have hsettleOld := Text.lines_settlesTo hreturns.1
  have hplaced := Hunk.placed_iff.mp wf.toPlaced
  have placed : Hunk.Placed old.lines.length p.hunks :=
    Hunk.placed_iff.mpr (hplaced.mono hsettleOld.length_le)
  -- the hunks replay on the raw old lines to what settles to the new lines
  obtain ⟨hwidened, hsame, -⟩ := Hunk.widen_placed before after placed
  have hreplayed : SettlesTo (Hunk.replay old.lines p.hunks) (Patch.settledEnd new).lines :=
    hreplay ▸ Hunk.replayFrom_settlesTo hsettleOld (Nat.le_refl 1) hfirst
  refine ⟨fun filename => Rendering.numbered_eq_layout filename _, fun h hh q hq => ?_⟩
  obtain ⟨hpos, -, hget⟩ := Hunk.numbered_of_placed hwidened
    (Hunk.widen_counted before after hcounted) h hh q hq
  rw [hsame] at hget
  have hsource := Hunk.replay_settlesTo_source hsettleOld hfirst hplaced.inside hpos hget
  rw [hreplay] at hsource
  refine shownUpToEnd_of_replayed hsettleOld (Text.lines_settlesTo hreturns.2) hreplayed
    (fun hlines => ?_) hpos hget hsource
  rw [hlines, hreplay]

end FileChange

def FileChange.NumbersMatch (f : FileChange) : Prop :=
  ∀ old new p, f.patchIsBlank = true → f.contentText .old = .ok (some old) →
    f.contentText .new = .ok (some new) → f.prepare = .ready p → ∀ before after,
    ∀ h ∈ Hunk.widen old.lines before after p.hunks, ∀ q ∈ (Rendering.blockOf h).numbered,
      1 ≤ q.1 ∧ q.1 ≤ new.lines.length ∧ new.lines[q.1 - 1]? = some q.2.text

namespace Sample

open EditScript

def edited (old new : Text) : FileChange :=
  { filename := "f".toList
    kind := .modified
    old := some (Utf8.encode old)
    new := some (Utf8.encode new) }

theorem prepare_edited {old new patch : Text} {h : Hunk}
    (hold : (edited old new).contentText .old = .ok (some old))
    (hnew : (edited old new).contentText .new = .ok (some new))
    (hrebuilt : Patch.rebuild old new = patch) (hparse : Patch.parse patch = .ok [h]) :
    (edited old new).prepare = .ready ⟨edited old new, [h], some old.lines⟩ := by
  have hpatch : (edited old new).patchText (some old) (some new) = some patch := by
    rw [← hrebuilt]
    rfl
  rw [FileChange.prepare_of_reads hold hnew hpatch, hparse]
  rfl

theorem not_numbersMatch {old new patch : Text} {h : Hunk} {q : Nat × BodyLine}
    (hold : (edited old new).contentText .old = .ok (some old))
    (hnew : (edited old new).contentText .new = .ok (some new))
    (hrebuilt : Patch.rebuild old new = patch) (hparse : Patch.parse patch = .ok [h])
    (hq : q ∈ (Rendering.blockOf h).numbered) (hwrong : new.lines[q.1 - 1]? ≠ some q.2.text) :
    ¬(edited old new).NumbersMatch := by
  intro hmatch
  have hprepare := prepare_edited hold hnew hrebuilt hparse
  refine hwrong (hmatch old new _ rfl hold hnew hprepare 0 0 h ?_ q hq).2.2
  rw [Hunk.widen_zero]
  exact List.mem_singleton.mpr rfl

def trailing : FileChange := edited "a  \n".toList "y\na  \n".toList

def loneReturn : FileChange := edited "a\rb\n".toList "a\rb\nc\n".toList

def passed : FileChange := edited "a\nb\n".toList "b\nb\n".toList

end Sample

/-- Numbers can fail to match in three ways: the shown line lacks the white space at the end of
the new version, a carriage return inside a line is taken as its end, or the header of a group
that an insertion has passed counts too few lines. -/
theorem FileChange.not_all_numbersMatch :
    ¬Sample.trailing.NumbersMatch ∧ ¬Sample.loneReturn.NumbersMatch ∧
      ¬Sample.passed.NumbersMatch := by
  refine ⟨?_, ?_, ?_⟩
  · exact Sample.not_numbersMatch (h := Sample.trailingHunk) (q := (2, ⟨.context, "a".toList⟩))
      (by decide +kernel) (by decide +kernel) Sample.trailing_rebuilt (by decide +kernel)
      (by decide +kernel) (by decide +kernel)
  · exact Sample.not_numbersMatch (h := Sample.loneReturnHunk)
      (q := (1, ⟨.context, "a\r b".toList⟩)) (by decide +kernel) (by decide +kernel)
      Sample.loneReturn_rebuilt (by decide +kernel) (by decide +kernel) (by decide +kernel)
  · exact Sample.not_numbersMatch (h := Sample.passedHunk) (q := (3, ⟨.added, "b".toList⟩))
      (by decide +kernel) (by decide +kernel) Sample.passed_rebuilt (by decide +kernel)
      (by decide +kernel) (by decide +kernel)

theorem FileChange.rebuilt_line_numbers_of_trailing :
    Sample.trailing.prepare =
        .ready ⟨Sample.trailing, [Sample.trailingHunk], some ["a  ".toList]⟩ ∧
      Rendering.numbered "f".toList
          (Hunk.widen (Text.lines "a  \n".toList) 0 1 [Sample.trailingHunk]) =
        "## f\n\n@@ -1 +1,2 @@\n__new hunk__\n1 +y\n2  a\n__old hunk__\n a\n".toList ∧
      ∀ h ∈ Hunk.widen (Text.lines "a  \n".toList) 0 1 [Sample.trailingHunk],
        ∀ q ∈ (Rendering.blockOf h).numbered,
          ShownUpToEnd "a  \n".toList "y\na  \n".toList q := by
  have hold : Sample.trailing.contentText .old = .ok (some "a  \n".toList) := by decide +kernel
  have hnew : Sample.trailing.contentText .new = .ok (some "y\na  \n".toList) := by
    decide +kernel
  have hprepare := Sample.prepare_edited hold hnew Sample.trailing_rebuilt
    (h := Sample.trailingHunk) (by decide +kernel)
  exact ⟨hprepare, by decide +kernel,
    (FileChange.rebuilt_line_numbers rfl hold hnew (by decide +kernel) hprepare (by decide) 0 1).2⟩

end DiffBudget
