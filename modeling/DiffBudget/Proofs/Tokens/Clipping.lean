import DiffBudget.Tokens.Clip
import Mathlib.Data.List.Basic

/-!
# What clipping keeps

However many characters the estimate allows, the cut falls at the end of a line: a shortened text
is a front of the first line, or ends where a line of the text ends. Every line that ends within
the characters allowed is kept.
-/
namespace DiffBudget.Text

theorem cutLast?_char (mark : Char) (t : Text) :
    (cutLast? [mark] t = none ∧ mark ∉ t) ∨
      ∃ front back, cutLast? [mark] t = some (front, back) ∧ t = front ++ mark :: back ∧
        mark ∉ back := by
  induction t with
  | nil => exact .inl ⟨rfl, List.not_mem_nil⟩
  | cons c t ih =>
    rw [cutLast?]
    rcases ih with ⟨hnone, habsent⟩ | ⟨front, back, hcut, rfl, hback⟩
    · rw [hnone]
      by_cases hc : mark = c
      · subst hc
        exact .inr ⟨[], t, by simp [List.isPrefixOf?], rfl, habsent⟩
      · exact .inl ⟨by simp [List.isPrefixOf?, hc], by simp [hc, habsent]⟩
    · rw [hcut]
      exact .inr ⟨c :: front, back, rfl, rfl, hback⟩

theorem upToLastLine_cases (t : Text) :
    (upToLastLine t = t ∧ '\n' ∉ t) ∨
      ∃ back, t = upToLastLine t ++ '\n' :: back ∧ '\n' ∉ back := by
  unfold upToLastLine
  rcases cutLast?_char '\n' t with ⟨hnone, habsent⟩ | ⟨front, back, hcut, ht, hback⟩
  · rw [hnone]
    exact .inl ⟨rfl, habsent⟩
  · rw [hcut]
    exact .inr ⟨back, ht, hback⟩

/-- Nothing, or a front of the text with the remark behind it. The front lies within the first line
or ends directly before a line feed. -/
def Shortened (t shown : Text) : Prop :=
  shown = [] ∨ ∃ p, shown = p ++ truncationRemark ∧ p <+: t ∧
    (('\n' ∉ p ∧ p <+: t.takeWhile (· ≠ '\n')) ∨ p ++ ['\n'] <+: t)

theorem prefix_firstLine {p t : Text} (h : p <+: t) (hp : '\n' ∉ p) :
    p <+: t.takeWhile (· ≠ '\n') := by
  obtain ⟨rest, rfl⟩ := h
  have hline : ∀ c ∈ p, decide (c ≠ '\n') = true := by
    intro c hc
    simp only [decide_eq_true_eq]
    rintro rfl
    exact hp hc
  rw [List.takeWhile_append_of_pos hline]
  exact List.prefix_append _ _

theorem clipAt_shortened (keep : Nat) (t : Text) : Shortened t (clipAt keep t) := by
  unfold clipAt
  split
  · exact .inl rfl
  · refine .inr ⟨upToLastLine (t.take keep), rfl, ?_⟩
    have hkept : t.take keep <+: t := List.take_prefix keep t
    rcases upToLastLine_cases (t.take keep) with ⟨hall, habsent⟩ | ⟨back, hcut, -⟩
    · rw [hall]
      exact ⟨hkept, .inl ⟨habsent, prefix_firstLine hkept habsent⟩⟩
    · have hline : upToLastLine (t.take keep) ++ ['\n'] <+: t := by
        refine List.IsPrefix.trans ⟨back, ?_⟩ hkept
        rw [List.append_assoc, List.singleton_append, ← hcut]
      exact ⟨(List.prefix_append _ _).trans hline, .inr hline⟩

theorem clipAt_eq_nil_iff (keep : Nat) (t : Text) : clipAt keep t = [] ↔ keep = 0 := by
  have hremark : truncationRemark ≠ [] := by decide
  unfold clipAt
  split
  · exact ⟨fun _ => ‹keep = 0›, fun _ => rfl⟩
  · exact ⟨fun h => absurd h (List.append_ne_nil_of_right_ne_nil _ hremark), fun h => absurd h ‹_›⟩

theorem prefix_upToLastLine {front t : Text} (h : front ++ ['\n'] <+: t) :
    front <+: upToLastLine t := by
  rcases upToLastLine_cases t with ⟨-, habsent⟩ | ⟨back, hcut, hback⟩
  · exact absurd (h.subset (by simp)) habsent
  · have hfront : front <+: t := (List.prefix_append _ _).trans h
    have hlast : upToLastLine t <+: t := ⟨_, hcut.symm⟩
    rcases List.prefix_or_prefix_of_prefix hfront hlast with hle | ⟨more, hmore⟩
    · exact hle
    · rw [hcut, ← hmore, List.append_assoc, List.prefix_append_right_inj] at h
      cases more with
      | nil =>
        have hsame : upToLastLine t = front := (List.append_nil _).symm.trans hmore
        exact hsame ▸ List.prefix_rfl
      | cons c more =>
        have hlater : more ++ ['\n'] <+: back := (List.cons_prefix_cons.mp h).2
        exact absurd (hlater.subset (by simp)) hback

theorem prefix_clipAt {keep : Nat} {front t : Text} (h : front ++ ['\n'] <+: t.take keep) :
    front <+: clipAt keep t := by
  have hkeep : keep ≠ 0 := by
    rintro rfl
    simp at h
  rw [clipAt, if_neg hkeep]
  exact (prefix_upToLastLine h).trans (List.prefix_append _ _)

/-- A text that fits stays as it is, and any other is shortened to the characters that the estimate
allows. However many these are, nothing is left if they are none, and no line is lost that ends
within them. -/
theorem clip_keeps_whole_lines (count : TokenCounter) (most : Nat) (t : Text) :
    (count t ≤ most → clip count most t = t) ∧
      (most < count t → Shortened t (clip count most t) ∧
        clip count most t = clipAt (keptLength t.length (count t) most) t) ∧
      ∀ keep, Shortened t (clipAt keep t) ∧ (clipAt keep t = [] ↔ keep = 0) ∧
        ∀ front, front ++ ['\n'] <+: t.take keep → front <+: clipAt keep t := by
  refine ⟨clip_of_le, fun h => ?_, fun keep => ?_⟩
  · rw [clip, if_neg (by omega)]
    exact ⟨clipAt_shortened _ t, rfl⟩
  · exact ⟨clipAt_shortened keep t, clipAt_eq_nil_iff keep t, fun _ => prefix_clipAt⟩

/-- With six characters allowed the second line ends just there; with five it is cut off. -/
example : clipAt 6 "ab\ncd\nef\n".toList = "ab\ncd\n...(truncated)".toList ∧
    clipAt 5 "ab\ncd\nef\n".toList = "ab\n...(truncated)".toList := by decide

theorem clip_keeps_whole_lines_of_sample :
    let t := "ab\ncd\nef\n".toList
    (t.length ≤ 9 ∧ clip List.length 9 t = t) ∧
      3 < t.length ∧ Shortened t (clip List.length 3 t) ∧
        "ab\n".toList <+: t.take 6 ∧ "ab".toList <+: clipAt 6 t := by
  intro t
  have hfits : t.length ≤ 9 := by decide
  have hlong : 3 < t.length := by decide
  have hline : "ab".toList ++ ['\n'] <+: t.take 6 := by decide
  exact ⟨⟨hfits, (clip_keeps_whole_lines List.length 9 t).1 hfits⟩, hlong,
    ((clip_keeps_whole_lines List.length 3 t).2.1 hlong).1, hline,
    ((clip_keeps_whole_lines List.length 3 t).2.2 6).2.2 _ hline⟩

end DiffBudget.Text
