import DiffBudget.Change.Additions
import DiffBudget.Proofs.Hunk.Widening
import DiffBudget.Proofs.Rendering

/-!
# Line numbers are exact

The numbered layout counts the new lines of a hunk from its start. Where hunks are well formed
for the old lines, every number that is printed is the place of its line among the lines that
replaying gives, and the old lines are printed as they stand. This holds of the hunks as they are,
of their widened forms, and of those that are left when the hunks without additions are dropped.
-/
namespace DiffBudget.Hunk

theorem mem_numberedFrom {first n : Nat} {l : BodyLine} {ls : List BodyLine}
    (h : (n, l) ∈ Rendering.numberedFrom first ls) :
    first ≤ n ∧ (BodyLine.newTexts ls)[n - first]? = some l.text := by
  induction ls generalizing first with
  | nil => simp [Rendering.numberedFrom] at h
  | cons m ls ih =>
    by_cases hm : m.inNew = true
    · simp only [Rendering.numberedFrom, hm, if_true, List.mem_cons, Prod.mk.injEq] at h
      have htexts : BodyLine.newTexts (m :: ls) = m.text :: BodyLine.newTexts ls := by
        simp [BodyLine.newTexts, hm]
      rcases h with ⟨rfl, rfl⟩ | h
      · simp [htexts]
      · obtain ⟨hle, hget⟩ := ih h
        obtain ⟨k, rfl⟩ := Nat.exists_eq_add_of_le hle
        refine ⟨by omega, ?_⟩
        rw [htexts, show first + 1 + k - first = k + 1 by omega, List.getElem?_cons_succ]
        simpa using hget
    · simp only [Rendering.numberedFrom, hm, Bool.false_eq_true, if_false] at h
      have htexts : BodyLine.newTexts (m :: ls) = BodyLine.newTexts ls := by
        simp [BodyLine.newTexts, hm]
      rw [htexts]
      exact ih h

theorem newStart_eq_newFirst {h : Hunk} (started : h.Started) (counted : h.Counted)
    {p : Nat × BodyLine} (hp : p ∈ Rendering.newLines h) : h.newStart = h.newFirst := by
  have hcount : h.newCount ≠ 0 := by
    have hget := (mem_numberedFrom hp).2
    rw [counted.2]
    intro hzero
    rw [List.length_eq_zero_iff.mp hzero] at hget
    simp at hget
  have hstart := started.2 hcount
  rw [newFirst, firstLine, if_neg hcount, Nat.max_eq_left hstart]

variable {oldLines : List Text} {hunks : List Hunk}

theorem numbered_of_placedFrom {pos : Nat} {shift : Int}
    (placed : PlacedFrom oldLines.length pos shift hunks) (counted : ∀ h ∈ hunks, h.Counted)
    (hpos : 1 ≤ pos) (front : List Text) (hfront : (front.length : Int) + 1 = pos + shift) :
    ∀ h ∈ hunks, ∀ p ∈ Rendering.newLines h,
      1 ≤ p.1 ∧ (front ++ replayFrom oldLines pos hunks)[p.1 - 1]? = some p.2.text := by
  induction hunks generalizing pos shift front with
  | nil => simp
  | cons g hunks ih =>
    obtain ⟨started, hle, hnew, behind⟩ := placed
    have hcounted := counted g List.mem_cons_self
    have hin : g.oldFirst ≤ oldLines.length + 1 := by
      have hend := behind.le
      have hlt := g.oldFirst_le_oldEnd
      omega
    have hgap : (cut oldLines pos g.oldFirst).length = g.oldFirst - pos := length_cut hpos hin
    have hbody : (BodyLine.newTexts g.body).length = g.newCount := hcounted.2.symm
    intro h hh p hp
    rcases List.mem_cons.mp hh with rfl | hh
    · have hstart := newStart_eq_newFirst started hcounted hp
      obtain ⟨hfirst, hget⟩ := mem_numberedFrom hp
      have hbound : p.1 - h.newStart < (BodyLine.newTexts h.body).length :=
        (List.getElem?_eq_some_iff.mp hget).1
      have hplace : p.1 - 1 = (front ++ cut oldLines pos h.oldFirst).length +
          (p.1 - h.newStart) := by
        rw [List.length_append, hgap]
        have := h.newFirst_pos
        omega
      refine ⟨by have := h.newFirst_pos; omega, ?_⟩
      rw [replayFrom, List.append_assoc, ← List.append_assoc front, hplace,
        List.getElem?_append_right (Nat.le_add_right _ _), Nat.add_sub_cancel_left,
        List.getElem?_append_left hbound]
      exact hget
    · have hlater := ih behind (fun h hh => counted h (List.mem_cons_of_mem _ hh)) g.oldEnd_pos
        (front ++ (cut oldLines pos g.oldFirst ++ BodyLine.newTexts g.body))
        (by
          simp only [List.length_append, hgap, hbody, Hunk.shift, oldEnd]
          omega)
      simpa only [replayFrom, List.append_assoc] using hlater h hh p hp

/-- The block of the hunk has every new line with its place for a number, and the old lines as they
stand in the file. -/
structure ShownExactly (oldLines newLines : List Text) (h : Hunk) : Prop where
  complete : (Rendering.blockOf h).numbered.map (·.2) = h.body.filter (·.inNew)
  numbered : ∀ p ∈ (Rendering.blockOf h).numbered,
    1 ≤ p.1 ∧ p.1 ≤ newLines.length ∧ newLines[p.1 - 1]? = some p.2.text
  unnumbered : (Rendering.blockOf h).unnumbered.map (·.text) = cut oldLines h.oldFirst h.oldEnd
  inside : h.oldEnd ≤ oldLines.length + 1

structure PrintedExactly (oldLines newLines : List Text) (hunks : List Hunk) : Prop where
  text : ∀ filename, Rendering.numbered filename hunks =
    Rendering.layout filename (hunks.map Rendering.blockOf)
  shown : ∀ h ∈ hunks, h.ShownExactly oldLines newLines

theorem numbered_of_placed (placed : Placed oldLines.length hunks)
    (counted : ∀ h ∈ hunks, h.Counted) :
    ∀ h ∈ hunks, ∀ p ∈ Rendering.newLines h, 1 ≤ p.1 ∧
      p.1 ≤ (replay oldLines hunks).length ∧
      (replay oldLines hunks)[p.1 - 1]? = some p.2.text := by
  intro h hh p hp
  obtain ⟨hle, hget⟩ := numbered_of_placedFrom (placed_iff.mp placed) counted (Nat.le_refl 1)
    [] (by simp) h hh p hp
  have hbound := (List.getElem?_eq_some_iff.mp hget).1
  rw [List.nil_append] at hget hbound
  exact ⟨hle, by unfold replay; omega, hget⟩

theorem WellFormed.shownExactly (wf : WellFormed oldLines hunks) :
    ∀ h ∈ hunks, h.ShownExactly oldLines (replay oldLines hunks) := fun h hh =>
  ⟨Rendering.numberedFrom_map_snd _ _, numbered_of_placed wf.toPlaced wf.counted h hh,
    wf.shown h hh, (placed_iff.mp wf.toPlaced).inside h hh⟩

/-- With context and without, every hunk is printed with the numbers that its lines have in the
file that replaying the hunks gives. -/
theorem line_numbers_exact (wf : WellFormed oldLines hunks) (before after : Nat) :
    PrintedExactly oldLines (replay oldLines hunks) (widen oldLines before after hunks) ∧
      PrintedExactly oldLines (replay oldLines hunks) (additions hunks) := by
  refine ⟨⟨fun filename => Rendering.numbered_eq_layout filename _, ?_⟩,
    fun filename => Rendering.numbered_eq_layout filename _, fun h hh => ?_⟩
  · obtain ⟨placed, hreplay, hshows⟩ := widen_placed before after wf.toPlaced
    have hwf : WellFormed oldLines (widen oldLines before after hunks) :=
      ⟨placed, widen_counted before after wf.counted, hshows wf.shown⟩
    rw [← hreplay]
    exact hwf.shownExactly
  · exact wf.shownExactly h ((additions_sublist hunks).subset hh)

theorem line_numbers_exact_of_sample :
    WellFormed Sample.oldLines Sample.hunks ∧
      PrintedExactly Sample.oldLines (replay Sample.oldLines Sample.hunks)
        (widen Sample.oldLines 2 1 Sample.hunks) ∧
      PrintedExactly Sample.oldLines (replay Sample.oldLines Sample.hunks)
        (additions Sample.hunks) :=
  have wf : WellFormed Sample.oldLines Sample.hunks := by decide
  ⟨wf, line_numbers_exact wf 2 1⟩

end DiffBudget.Hunk
