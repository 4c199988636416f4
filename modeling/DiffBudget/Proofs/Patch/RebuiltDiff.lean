import DiffBudget.Proofs.Patch.Rebuilding
import DiffBudget.Proofs.Text.Tail

/-!
# Rebuilt patches as diffs

A rebuilt patch is always read, and the bodies of its hunks always lead from the old version to the
new one, both with their ends settled. Its headers count these bodies exactly when the changes at
the ends of the script have the indices of these ends, and then the hunks are well formed. A
deletion or an insertion that another change has passed keeps its index, so not every script is
like that.
-/
namespace DiffBudget

namespace EditScript

variable {old new : Array Text} {op : EditOp} {ops g script : List EditOp} {radius c : Nat}

theorem hunkFrom_mem {gs : List (List EditOp)} (h : op :: ops ∈ gs) :
    hunkFrom old new op ops ∈ gs.filterMap (hunkOf? old new) :=
  List.mem_filterMap.mpr ⟨_, h, rfl⟩

theorem exists_group_of_frontChange (radius : Nat) (h : frontChange script = some op) :
    ∃ ops, op :: ops ∈ groups radius script := by
  have hmem : op ∈ (groups radius script).filterMap frontChange := by
    rw [groups_frontChange, h]
    exact List.mem_singleton_self op
  obtain ⟨g, hg, hfront⟩ := List.mem_filterMap.mp hmem
  obtain ⟨ops, rfl⟩ := List.head?_eq_some_iff.mp (mem_of_frontChange hfront).1
  exact ⟨ops, hg⟩

theorem exists_group_of_backChange (radius : Nat) (h : backChange script = some op) :
    ∃ first ops, first :: ops ∈ groups radius script ∧ (first :: ops).getLast? = some op := by
  have hmem : op ∈ (groups radius script).filterMap backChange := by
    rw [groups_backChange, h]
    exact List.mem_singleton_self op
  obtain ⟨g, hg, hback⟩ := List.mem_filterMap.mp hmem
  have hlast := (mem_of_backChange hback).1
  cases g with
  | nil => cases hlast
  | cons first ops => exact ⟨first, ops, hg, hlast⟩

theorem frontChange_of_group (hg : op :: ops ∈ groups radius script) (hchange : op.tag ≠ .equal) :
    frontChange script = some op := by
  have hfront : frontChange (op :: ops) = some op := by simp [frontChange, hchange]
  have hmem := List.mem_filterMap.mpr ⟨_, hg, hfront⟩
  rw [groups_frontChange] at hmem
  exact Option.mem_toList.mp hmem

theorem backChange_of_group (hg : g ∈ groups radius script) (hlast : g.getLast? = some op)
    (hchange : op.tag ≠ .equal) : backChange script = some op := by
  have hback : backChange g = some op := by simp [backChange, hlast, hchange]
  have hmem := List.mem_filterMap.mpr ⟨_, hg, hback⟩
  rw [groups_backChange] at hmem
  exact Option.mem_toList.mp hmem

theorem groups_counted_iff (hradius : 0 < radius)
    (hwalk : Walk (Tidy old new) ⟨0, 0, 0⟩ script ⟨old.size, new.size, c⟩) :
    (∀ hunk ∈ (groups radius script).filterMap (hunkOf? old new), hunk.Counted) ↔
      EndsInPlace old new script := by
  have hframed := (groups_spaced hradius hwalk).framed
  constructor
  · -- a change at an end of the script is at the same end of a group, which counts its lines
    intro hcounted
    refine ⟨fun op hop => ?_, fun op hop => ?_⟩
    · obtain ⟨ops, hg⟩ := exists_group_of_frontChange radius hop
      obtain ⟨p, q, hgroup⟩ := hframed _ hg
      have hbegins := (hgroup.counted_iff.mp (hcounted _ (hunkFrom_mem hg))).1
      obtain ⟨hold, hnew⟩ := (hgroup.front op rfl).resolve_left (mem_of_frontChange hop).2
      rwa [hold, hnew] at hbegins
    · obtain ⟨first, ops, hg, hlast⟩ := exists_group_of_backChange radius hop
      obtain ⟨p, q, hgroup⟩ := hframed _ hg
      have hends := (hgroup.counted_iff.mp (hcounted _ (hunkFrom_mem hg))).2
      obtain ⟨hold, hnew⟩ := (hgroup.back op hlast).resolve_left (mem_of_backChange hop).2
      rw [List.getLast?_eq_some_getLast (List.cons_ne_nil _ _), Option.some.injEq] at hlast
      rwa [hlast, hold, hnew] at hends
  · intro hends hunk hmem
    obtain ⟨g, hg, hhunk⟩ := List.mem_filterMap.mp hmem
    cases g with
    | nil => cases hhunk
    | cons op ops =>
      cases hhunk
      obtain ⟨p, q, hgroup⟩ := hframed _ hg
      obtain ⟨t, last, hlast, hgetLast, hfits, hend, -, -⟩ := hgroup.exists_last
      refine hgroup.counted_iff.mpr ⟨?_, ?_⟩
      · by_cases hequal : op.tag = .equal
        · exact hgroup.walk.1.beginsAt hequal
        · obtain ⟨hold, hnew⟩ := (hgroup.front op rfl).resolve_left hequal
          rw [hold, hnew]
          exact hends.front op (frontChange_of_group hg hequal)
      · rw [hgetLast]
        by_cases hequal : last.tag = .equal
        · exact hend ▸ hfits.endsAt hequal
        · obtain ⟨hold, hnew⟩ := (hgroup.back last hlast).resolve_left hequal
          rw [hold, hnew]
          exact hends.back last (backChange_of_group hg hlast hequal)

theorem length_endedLines_le (t : Text) : (endedLines t).length ≤ t.length := by
  fun_induction endedLines t <;> simp_all <;> omega

end EditScript

namespace Patch

open EditScript

theorem length_settledEnd_le (t : Text) : (settledEnd t).length ≤ t.length + 1 := by
  have htrim : t.trimEnd.length ≤ t.length := by
    obtain ⟨w, hw, -⟩ := Text.exists_blank_tail t
    rw [congrArg List.length hw, List.length_append]
    exact Nat.le_add_right _ _
  unfold settledEnd
  split
  · exact Nat.zero_le _
  · rw [List.length_append]
    exact Nat.add_le_add_right htrim 1

theorem settledEnd_ended {t : Text} (h : t.ReturnsPaired) :
    (∀ e ∈ (EditScript.endedLines (settledEnd t)).toArray.toList, e.Ended) ∧
      (settledEnd t).lines =
        EditScript.shownLines (EditScript.endedLines (settledEnd t)).toArray :=
  ⟨Text.ended_of_mem_endedLines (Text.settledEnd_paired h) (Text.settledEnd_last t),
    Text.lines_eq_map_lineOf (Text.settledEnd_paired h) (Text.settledEnd_last t)⟩

def settledItems (t : Text) : Array Text := (endedLines (settledEnd t)).toArray

def settledScript (old new : Text) : List EditOp :=
  tidy (settledItems old) (settledItems new) (shortest (settledItems old) (settledItems new))

theorem size_settledItems_le {t : Text} (h : t.length < maxNumber) :
    (settledItems t).size ≤ maxNumber := by
  have hlines := length_endedLines_le (settledEnd t)
  have hsettled := length_settledEnd_le t
  rw [settledItems, List.size_toArray]
  omega

def groupHunks (old new : Text) : List Hunk :=
  (groups contextRadius (settledScript old new)).filterMap
    (hunkOf? (settledItems old) (settledItems new))

theorem settledScript_walks (old new : Text) :
    ∃ c, Walk (Tidy (settledItems old) (settledItems new)) ⟨0, 0, 0⟩ (settledScript old new)
      ⟨(settledItems old).size, (settledItems new).size, c⟩ :=
  tidy_walks _ _

theorem settledScript_spaced (old new : Text) :
    ∃ c, Spaced (settledItems old) (settledItems new) ⟨0, 0, 0⟩
      ⟨(settledItems old).size, (settledItems new).size, c⟩ ⟨0, 0, 0⟩
      (groups contextRadius (settledScript old new)) := by
  obtain ⟨c, hwalk⟩ := settledScript_walks old new
  exact ⟨c, groups_spaced (by decide) hwalk⟩

section Paired

variable {old new : Text} (hold : old.ReturnsPaired) (hnew : new.ReturnsPaired)

include hold hnew

theorem parse_rebuild_iff (hunks : List Hunk) : parse (rebuild old new) = .ok hunks ↔
    (∀ g ∈ groups contextRadius (settledScript old new), HeaderFits g) ∧
      hunks = groupHunks old new :=
  parse_groups_iff (settledEnd_ended hold).1 (settledEnd_ended hnew).1 _ hunks

theorem parse_rebuild (hlengthOld : old.length < maxNumber) (hlengthNew : new.length < maxNumber) :
    parse (rebuild old new) = .ok (groupHunks old new) := by
  refine (parse_rebuild_iff hold hnew _).mpr ⟨fun g hg => ?_, rfl⟩
  obtain ⟨c, hspaced⟩ := settledScript_spaced old new
  obtain ⟨p, q, hframed⟩ := hspaced.framed g hg
  exact hframed.headerFits (size_settledItems_le hlengthOld) (size_settledItems_le hlengthNew)

theorem standing_replays {hunks : List Hunk}
    (h : Standing (settledItems old) (settledItems new) ⟨0, 0, 0⟩ hunks) :
    Hunk.WellFormed (settledEnd old).lines hunks ∧
      Hunk.replay (settledEnd old).lines hunks = (settledEnd new).lines ∧
      ∀ h ∈ hunks, h.oldFirst ≤ max (settledEnd old).lines.length 1 := by
  obtain ⟨hplaced, hreplay, hshown⟩ := h.replays
  rw [(settledEnd_ended hold).2, (settledEnd_ended hnew).2]
  change Hunk.WellFormed (shownLines (settledItems old)) hunks ∧ _
  rw [← length_shownLines] at hplaced hshown
  exact ⟨⟨Hunk.placed_iff.mpr hplaced, fun h hh => (hshown h hh).1, fun h hh => (hshown h hh).2.1⟩,
    hreplay, fun h hh => (hshown h hh).2.2⟩

theorem rebuild_replays {hunks : List Hunk} (hparse : parse (rebuild old new) = .ok hunks)
    (hcounted : ∀ h ∈ hunks, h.Counted) :
    Hunk.WellFormed (settledEnd old).lines hunks ∧
      Hunk.replay (settledEnd old).lines hunks = (settledEnd new).lines ∧
      ∀ h ∈ hunks, h.oldFirst ≤ max (settledEnd old).lines.length 1 := by
  obtain ⟨-, rfl⟩ := (parse_rebuild_iff hold hnew hunks).mp hparse
  obtain ⟨c, hspaced⟩ := settledScript_spaced old new
  obtain ⟨hunks, hstanding, -, hsame⟩ := hspaced.exists_standing
  obtain rfl := hsame hcounted
  exact standing_replays hold hnew hstanding

end Paired

/-- A rebuilt patch is read. Its hunks are a correct diff when the changes at the ends of the script
have the indices of these ends; otherwise some header miscounts its body. The bodies are those of
a correct diff in any case. -/
theorem rebuild_is_diff {old new : Text} (hpaired : old.ReturnsPaired ∧ new.ReturnsPaired)
    (hlength : old.length < maxNumber ∧ new.length < maxNumber) :
    ∃ hunks, parse (rebuild old new) = .ok hunks ∧
      ((∀ h ∈ hunks, h.Counted) ↔
        EndsInPlace (settledItems old) (settledItems new) (settledScript old new)) ∧
      (EndsInPlace (settledItems old) (settledItems new) (settledScript old new) →
        Hunk.WellFormed (settledEnd old).lines hunks ∧
          Hunk.replay (settledEnd old).lines hunks = (settledEnd new).lines) ∧
      ∃ right, right.map (·.body) = hunks.map (·.body) ∧
        Hunk.WellFormed (settledEnd old).lines right ∧
        Hunk.replay (settledEnd old).lines right = (settledEnd new).lines := by
  obtain ⟨hold, hnew⟩ := hpaired
  have hparse := parse_rebuild hold hnew hlength.1 hlength.2
  obtain ⟨c, hwalk⟩ := settledScript_walks old new
  have hcounted := groups_counted_iff (by decide : 0 < contextRadius) hwalk
  obtain ⟨d, hspaced⟩ := settledScript_spaced old new
  obtain ⟨right, hstanding, hbodies, -⟩ := hspaced.exists_standing
  obtain ⟨hright, hreplay, -⟩ := standing_replays hold hnew hstanding
  refine ⟨_, hparse, hcounted, fun hends => ?_, right, hbodies, hright, hreplay⟩
  obtain ⟨hformed, hsame, -⟩ := rebuild_replays hold hnew hparse (hcounted.mpr hends)
  exact ⟨hformed, hsame⟩

end Patch

theorem EditScript.between_of_split {α : Type} [DecidableEq α] {old new : Array α} {w : Window}
    {a b x y : Nat} (hfront : commonFront old new w.i w.j (min w.n w.m) = a)
    (hback : commonBack old new (w.i + w.n) (w.j + w.m) (min (w.n - a) (w.m - a)) = b)
    (hn : w.n - a - b ≠ 0) (hm : w.m - a - b ≠ 0)
    (hsplit : split? old new ⟨w.i + a, w.n - a - b, w.j + a, w.m - a - b⟩ = some (x, y)) :
    between old new w = equalRun w.i w.j a ++
      (between old new ⟨w.i + a, x, w.j + a, y⟩ ++
        between old new ⟨w.i + a + x, w.n - a - b - x, w.j + a + y, w.m - a - b - y⟩) ++
      equalRun (w.i + a + (w.n - a - b)) (w.j + a + (w.m - a - b)) b := by
  subst hfront hback
  rw [between, if_neg hm, if_neg hn]
  split
  · rename_i hnone
    rw [hsplit] at hnone
    cases hnone
  · rename_i c d hsome
    rw [hsplit] at hsome
    cases hsome
    rfl

namespace Sample

open EditScript

def trailingHunk : Hunk :=
  { oldStart := 1, oldCount := 1, newStart := 1, newCount := 2, comment := []
    body := [⟨.added, "y".toList⟩, ⟨.context, "a".toList⟩]
    written := some "@@ -1 +1,2 @@".toList }

def loneReturnHunk : Hunk :=
  { oldStart := 1, oldCount := 2, newStart := 1, newCount := 3, comment := []
    body := [⟨.context, "a\r b".toList⟩, ⟨.added, "c".toList⟩]
    written := some "@@ -1,2 +1,3 @@".toList }

def passedHunk : Hunk :=
  { oldStart := 1, oldCount := 1, newStart := 2, newCount := 1, comment := []
    body := [⟨.removed, "a".toList⟩, ⟨.context, "b".toList⟩, ⟨.added, "b".toList⟩]
    written := some "@@ -1 +2 @@".toList }

theorem rebuild_eq (old new : Text) : Patch.rebuild old new =
    (groups Patch.contextRadius (Patch.settledScript old new)).flatMap
      (hunkText (Patch.settledItems old) (Patch.settledItems new)) := rfl

theorem trailing_script : Patch.settledScript "a  \n".toList "y\na  \n".toList =
    [.insert 0 0 1, .equal 0 1 1] := by
  have hold : Patch.settledItems "a  \n".toList = #["a\n".toList] := by decide +kernel
  have hnew : Patch.settledItems "y\na  \n".toList =
      #["y\n".toList, "a\n".toList] := by decide +kernel
  have hscript : shortest #["a\n".toList] #["y\n".toList, "a\n".toList] =
      [.insert 0 0 1, .equal 0 1 1] := by decide +kernel
  have hslid : slideAll #["a\n".toList] #["y\n".toList, "a\n".toList] .insert
      (slideAll #["a\n".toList] #["y\n".toList, "a\n".toList] .delete
        [.insert 0 0 1, .equal 0 1 1]) = [.insert 0 0 1, .equal 0 1 1] := by
    simp [slideAll, slideKind, slideUp, slideDown, slackDown, commonFront, EditOp.insert,
      EditOp.equal, EditOp.isEmpty]
  rw [Patch.settledScript, hold, hnew, hscript, tidy, hslid]
  decide +kernel

theorem trailing_rebuilt : Patch.rebuild "a  \n".toList "y\na  \n".toList =
    "@@ -1 +1,2 @@\n+y\n a\n".toList := by
  rw [rebuild_eq, trailing_script]
  decide +kernel

theorem loneReturn_rebuilt : Patch.rebuild "a\rb\n".toList "a\rb\nc\n".toList =
    "@@ -1,2 +1,3 @@\n a\r b\n+c\n".toList := by
  have hold : Patch.settledItems "a\rb\n".toList =
      #["a\r".toList, "b\n".toList] := by decide +kernel
  have hnew : Patch.settledItems "a\rb\nc\n".toList =
      #["a\r".toList, "b\n".toList, "c\n".toList] := by decide +kernel
  have hscript : shortest #["a\r".toList, "b\n".toList]
      #["a\r".toList, "b\n".toList, "c\n".toList] =
        [.equal 0 0 2, .insert 2 2 1] := by decide +kernel
  have hslid : slideAll #["a\r".toList, "b\n".toList]
      #["a\r".toList, "b\n".toList, "c\n".toList] .insert
        (slideAll #["a\r".toList, "b\n".toList] #["a\r".toList, "b\n".toList, "c\n".toList] .delete
          [.equal 0 0 2, .insert 2 2 1]) = [.equal 0 0 2, .insert 2 2 1] := by
    simp [slideAll, slideKind, slideUp, slideDown, slackUp, commonBack, EditOp.insert,
      EditOp.equal, EditOp.isEmpty, EditOp.oldEnd, EditOp.newEnd]
  rw [rebuild_eq, Patch.settledScript, hold, hnew, hscript, tidy, hslid]
  decide +kernel

/-- The insertion passes the deletion and an equal line behind it. The deletion keeps its index in
the new version, which names the first line of the hunk. -/
theorem passed_rebuilt : Patch.rebuild "a\nb\n".toList "b\nb\n".toList =
    "@@ -1 +2 @@\n-a\n b\n+b\n".toList := by
  have hold : Patch.settledItems "a\nb\n".toList =
      #["a\n".toList, "b\n".toList] := by decide +kernel
  have hnew : Patch.settledItems "b\nb\n".toList =
      #["b\n".toList, "b\n".toList] := by decide +kernel
  have hsplit : split? #["a\n".toList, "b\n".toList] #["b\n".toList, "b\n".toList]
      ⟨0, 1, 0, 1⟩ = some (0, 1) := by decide +kernel
  have hscript : shortest #["a\n".toList, "b\n".toList] #["b\n".toList, "b\n".toList] =
      [.insert 0 0 1, .delete 0 1 1, .equal 1 1 1] := by
    rw [shortest, between_of_split (a := 0) (b := 1) (by decide) (by decide) (by decide)
      (by decide) hsplit]
    decide +kernel
  have hslid : slideAll #["a\n".toList, "b\n".toList] #["b\n".toList, "b\n".toList] .insert
      (slideAll #["a\n".toList, "b\n".toList] #["b\n".toList, "b\n".toList] .delete
        [.insert 0 0 1, .delete 0 1 1, .equal 1 1 1]) =
          [.delete 0 1 1, .equal 1 0 1, .insert 1 1 1] := by
    simp [slideAll, slideKind, slideUp, slideDown, slackDown, commonFront, growBefore,
      EditOp.delete, EditOp.insert, EditOp.equal, EditOp.isEmpty, EditOp.shiftRight]
  rw [rebuild_eq, Patch.settledScript, hold, hnew, hscript, tidy, hslid]
  decide +kernel

end Sample

namespace Patch

/-- Not every rebuilt patch is a correct diff: a header counts one line of two on either side, and
replaying its hunk gives one line too many. -/
theorem rebuild_of_passed_miscounts :
    Text.ReturnsPaired "a\nb\n".toList ∧ Text.ReturnsPaired "b\nb\n".toList ∧
      parse (rebuild "a\nb\n".toList "b\nb\n".toList) = .ok [Sample.passedHunk] ∧
      ¬Sample.passedHunk.Counted ∧
      Hunk.replay (settledEnd "a\nb\n".toList).lines [Sample.passedHunk] ≠
        (settledEnd "b\nb\n".toList).lines := by
  rw [Sample.passed_rebuilt]
  refine ⟨?_, ?_, ?_, ?_, ?_⟩ <;> decide +kernel

theorem rebuild_is_diff_of_trailing :
    (Text.ReturnsPaired "a  \n".toList ∧ Text.ReturnsPaired "y\na  \n".toList) ∧
      ("a  \n".toList.length < maxNumber ∧ "y\na  \n".toList.length < maxNumber) ∧
      ∃ hunks, parse (rebuild "a  \n".toList "y\na  \n".toList) = .ok hunks ∧
        Hunk.WellFormed (settledEnd "a  \n".toList).lines hunks ∧
        Hunk.replay (settledEnd "a  \n".toList).lines hunks =
          (settledEnd "y\na  \n".toList).lines := by
  have hpaired : Text.ReturnsPaired "a  \n".toList ∧ Text.ReturnsPaired "y\na  \n".toList := by
    decide
  have hlength : "a  \n".toList.length < maxNumber ∧ "y\na  \n".toList.length < maxNumber := by
    decide
  have hends : EditScript.EndsInPlace (settledItems "a  \n".toList) (settledItems "y\na  \n".toList)
      (settledScript "a  \n".toList "y\na  \n".toList) := by
    rw [Sample.trailing_script]
    constructor <;> decide +kernel
  obtain ⟨hunks, hparse, -, hcorrect, -⟩ := rebuild_is_diff hpaired hlength
  exact ⟨hpaired, hlength, hunks, hparse, hcorrect hends⟩

end Patch
end DiffBudget
