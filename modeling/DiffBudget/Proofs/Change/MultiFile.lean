import DiffBudget.Change.MultiFile
import DiffBudget.Proofs.Text.Lines

/-!
# The patches of a diff of several files

The patch of a section begins at its first header line, so the patch of a file that comes from a
diff has no line in front of its first hunk.
-/
namespace DiffBudget

namespace Hunk

theorem isHeaderLine_dropReturn {line : Text} (h : isHeaderLine line = true) :
    isHeaderLine (Text.dropReturn line) = true := by
  obtain ⟨t, rfl⟩ := List.isPrefixOf_iff_prefix.mp h
  have hcons : "@@".toList ++ t = '@' :: '@' :: t := rfl
  rw [hcons, Text.dropReturn_cons (.inl (by decide)), Text.dropReturn_cons (.inl (by decide))]
  rfl

theorem isHeaderLine_head_joinLines {ls : List Text} (hls : ∀ l ∈ ls.head?, isHeaderLine l = true)
    (hnewline : ∀ l ∈ ls, '\n' ∉ l) :
    ∀ l ∈ (Text.lines (Text.joinLines ls)).head?, isHeaderLine l = true := by
  cases ls with
  | nil => exact fun l hl => by cases hl
  | cons line ls =>
    have hheader : isHeaderLine line = true := hls line rfl
    have hline := hnewline line List.mem_cons_self
    cases ls with
    | nil =>
      have hne : line ≠ [] := by
        rintro rfl
        cases hheader
      rw [Text.joinLines_singleton, Text.lines_of_no_newline hline hne]
      rintro l ⟨⟩
      exact hheader
    | cons next ls =>
      rw [Text.joinLines_cons_cons, Text.lines_append_newline hline]
      rintro l ⟨⟩
      exact isHeaderLine_dropReturn hheader

end Hunk

namespace Section

theorem exists_block_of_mem {ls : List Text} {f : FileChange} (h : f ∈ ofLines ls) :
    ∃ rest block, (∀ l ∈ block, l ∈ ls) ∧ f = read rest block := by
  fun_induction ofLines ls with
  | case1 => exact absurd h List.not_mem_nil
  | case2 line ls ih =>
    rcases List.mem_cons.mp h with rfl | h
    · exact ⟨_, _, fun l hl => List.mem_cons_of_mem _ ((List.takeWhile_sublist _).subset hl), rfl⟩
    · obtain ⟨rest, block, hblock, hf⟩ := ih h
      refine ⟨rest, block, fun l hl => ?_, hf⟩
      exact List.mem_cons_of_mem _ ((List.dropWhile_sublist _).subset (hblock l hl))

end Section

theorem FileChange.isHeaderLine_head_patch {diff : Text} {f : FileChange} (h : f ∈ ofDiff diff) :
    ∀ l ∈ f.patch.lines.head?, Hunk.isHeaderLine l = true := by
  obtain ⟨rest, block, hblock, rfl⟩ := Section.exists_block_of_mem h
  apply Hunk.isHeaderLine_head_joinLines
  · intro l hl
    have hnot := List.head?_dropWhile_not (! Hunk.isHeaderLine ·) block
    rw [Option.mem_def.mp hl] at hnot
    simpa using hnot
  · intro l hl
    have hmem := hblock l ((List.dropWhile_sublist _).subset hl)
    exact Text.newline_not_mem_lines diff l ((List.dropWhile_sublist _).subset hmem)

end DiffBudget
