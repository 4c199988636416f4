import DiffBudget.Proofs.Text.Lines
import DiffBudget.Sum

/-!
# How long joined lines are

A sublist of lines is joined to no longer a text, and lines in front that are not empty make it
longer. The carriage returns that end lines are all that is missing where they are dropped.
-/
namespace DiffBudget.Text

theorem dropReturn_of_not_mem {l : Text} (h : '\r' ∉ l) : dropReturn l = l :=
  if_neg fun hlast => h (List.mem_of_getLast? hlast)

theorem map_dropReturn_eq_self {ls : List Text} (h : ∀ l ∈ ls, dropReturn l = l) :
    ls.map dropReturn = ls := (List.map_congr_left h).trans (List.map_id _)

theorem length_joinLines (ls : List Text) :
    (joinLines ls).length = sumOf List.length ls + (ls.length - 1) := by
  induction ls with
  | nil => rfl
  | cons l ls ih =>
    cases ls with
    | nil => simp
    | cons next ls =>
      rw [joinLines_cons_cons, List.length_append, List.length_cons, ih]
      simp only [sumOf_cons, List.length_cons]
      omega

theorem length_joinLines_le_of_sublist {ls more : List Text} (h : ls.Sublist more) :
    (joinLines ls).length ≤ (joinLines more).length := by
  have hcount := h.length_le
  have hsum : sumOf List.length ls ≤ sumOf List.length more := by
    clear hcount
    induction h with
    | slnil => exact Nat.le_refl _
    | cons l _ ih =>
      rw [sumOf_cons]
      omega
    | cons_cons l _ ih =>
      rw [sumOf_cons, sumOf_cons]
      omega
  rw [length_joinLines, length_joinLines]
  omega

theorem joinLines_append_eq_iff {front : List Text} (h : ∀ l ∈ front, l ≠ []) (back : List Text) :
    joinLines (front ++ back) = joinLines back ↔ front = [] := by
  constructor
  · intro hsame
    cases front with
    | nil => rfl
    | cons l front =>
      have hl := List.length_pos_iff.mpr (h l List.mem_cons_self)
      have hlength := congrArg List.length hsame
      simp only [length_joinLines, sumOf_append, sumOf_cons, List.length_append,
        List.length_cons] at hlength
      omega
  · rintro rfl
    rfl

theorem length_dropReturn (l : Text) :
    l.length = (dropReturn l).length + if l.getLast? = some '\r' then 1 else 0 := by
  unfold dropReturn
  split
  · rename_i hlast
    have hne : l ≠ [] := by
      rintro rfl
      cases hlast
    have hpos := List.length_pos_iff.mpr hne
    rw [List.length_dropLast]
    omega
  · rfl

theorem length_joinLines_dropReturn (ls : List Text) : (joinLines ls).length =
    (joinLines (ls.map dropReturn)).length + ls.countP (·.getLast? = some '\r') := by
  have hsum : sumOf List.length ls =
      sumOf List.length (ls.map dropReturn) + ls.countP (·.getLast? = some '\r') := by
    induction ls with
    | nil => rfl
    | cons l ls ih =>
      simp only [List.map_cons, sumOf_cons, List.countP_cons, length_dropReturn l, ih,
        decide_eq_true_eq]
      omega
  rw [length_joinLines, length_joinLines, List.length_map, hsum]
  omega

theorem eq_joinLines_iff {t : Text} {ls : List Text}
    (hle : t.length ≤ (joinLines (ls.map dropReturn)).length) :
    t = joinLines ls ↔ t = joinLines (ls.map dropReturn) ∧ ∀ l ∈ ls, l.getLast? ≠ some '\r' := by
  have hself (h : ∀ l ∈ ls, l.getLast? ≠ some '\r') : ls.map dropReturn = ls :=
    map_dropReturn_eq_self fun l hl => if_neg (h l hl)
  constructor
  · rintro rfl
    have hlength := length_joinLines_dropReturn ls
    have hcount : ls.countP (·.getLast? = some '\r') = 0 := by omega
    have hnone : ∀ l ∈ ls, l.getLast? ≠ some '\r' := by simpa using hcount
    exact ⟨by rw [hself hnone], hnone⟩
  · rintro ⟨heq, hnone⟩
    rw [heq, hself hnone]

end DiffBudget.Text
