import DiffBudget.Patch.Rebuild
import DiffBudget.Proofs.Text.Lines
import Mathlib.Data.List.TakeWhile

/-!
# Lines at the end of a text

Settling the end of a text leaves its lines alone up to the last one that is not blank. That one
loses the white space at its end, and the blank lines behind it are dropped.
-/
namespace DiffBudget.Text

theorem exists_blank_tail (t : Text) : ∃ w, t = trimEnd t ++ w ∧ ∀ c ∈ w, isBlank c = true := by
  refine ⟨(t.reverse.takeWhile isBlank).reverse, ?_, fun c hc => ?_⟩
  · rw [trimEnd, ← List.reverse_append, List.takeWhile_append_dropWhile, List.reverse_reverse]
  · exact List.mem_takeWhile_imp (List.mem_reverse.mp hc)

theorem not_blank_of_last_trimEnd {t : Text} : ∀ c ∈ (trimEnd t).getLast?, isBlank c = false := by
  intro c hc
  rw [trimEnd, List.getLast?_reverse] at hc
  have hnot := List.head?_dropWhile_not isBlank t.reverse
  rw [Option.mem_def.mp hc] at hnot
  simpa using hnot

theorem trimEnd_append_blank (t : Text) {w : Text} (hw : ∀ c ∈ w, isBlank c = true) :
    trimEnd (t ++ w) = trimEnd t := by
  rw [trimEnd, List.reverse_append, List.dropWhile_append_of_pos]
  · rfl
  · simpa using hw

theorem trimEnd_eq_self {t : Text} (h : ∀ c ∈ t.getLast?, isBlank c = false) : trimEnd t = t := by
  rw [trimEnd]
  cases hr : t.reverse with
  | nil => simpa using hr.symm
  | cons c u =>
    have hc : isBlank c = false := h c (by rw [← List.head?_reverse, hr]; rfl)
    rw [List.dropWhile_cons_of_neg (by simp [hc]), ← hr, List.reverse_reverse]

theorem trimEnd_trimEnd (t : Text) : trimEnd (trimEnd t) = trimEnd t :=
  trimEnd_eq_self not_blank_of_last_trimEnd

theorem trimEnd_of_blank {w : Text} (hw : ∀ c ∈ w, isBlank c = true) : trimEnd w = [] :=
  trimEnd_append_blank [] hw

theorem ReturnsPaired.front {a b : Text} (h : ReturnsPaired (a ++ b))
    (hlast : a.getLast? ≠ some '\r') : ReturnsPaired a := by
  induction a with
  | nil => trivial
  | cons c a ih =>
    cases a with
    | nil => exact ⟨fun hc => absurd (congrArg some hc) hlast, trivial⟩
    | cons d a =>
      rw [List.getLast?_cons_cons] at hlast
      exact ⟨h.1, ih h.2 hlast⟩

theorem ReturnsPaired.append {a b : Text} (ha : ReturnsPaired a) (hb : ReturnsPaired b) :
    ReturnsPaired (a ++ b) := by
  induction a with
  | nil => exact hb
  | cons c a ih =>
    refine ⟨fun hc => ?_, ih ha.2⟩
    obtain ⟨u, rfl⟩ := List.head?_eq_some_iff.mp (ha.1 hc)
    rfl

theorem mem_of_mem_lines (t : Text) : ∀ l ∈ lines t, ∀ c ∈ l, c ∈ t := by
  fun_induction lines t with
  | case1 => exact fun l hl => absurd hl List.not_mem_nil
  | case2 t ih =>
    refine List.forall_mem_cons.mpr ⟨fun c hc => absurd hc List.not_mem_nil, fun l hl c hc => ?_⟩
    exact List.mem_cons_of_mem _ (ih l hl c hc)
  | case3 t ih =>
    refine List.forall_mem_cons.mpr ⟨fun c hc => absurd hc List.not_mem_nil, fun l hl c hc => ?_⟩
    exact List.mem_cons_of_mem _ (List.mem_cons_of_mem _ (ih l hl c hc))
  | case4 c t _ _ _ ih =>
    intro l hl d hd
    obtain rfl := List.mem_singleton.mp hl
    exact List.mem_singleton.mp hd ▸ List.mem_cons_self
  | case5 c t _ _ k ks hks ih =>
    rw [hks] at ih
    obtain ⟨hk, hrest⟩ := List.forall_mem_cons.mp ih
    refine List.forall_mem_cons.mpr ⟨List.forall_mem_cons.mpr ⟨List.mem_cons_self, ?_⟩, ?_⟩
    · exact fun d hd => List.mem_cons_of_mem _ (hk d hd)
    · exact fun l hl d hd => List.mem_cons_of_mem _ (hrest l hl d hd)

theorem trimEnd_of_mem_lines {w : Text} (hw : ∀ c ∈ w, isBlank c = true) :
    ∀ l ∈ lines w, trimEnd l = [] :=
  fun l hl => trimEnd_of_blank fun c hc => hw c (mem_of_mem_lines w l hl c hc)

/-- The two lists differ at their ends only: of the last shown line white space is missing, and
what follows it is blank. -/
structure SettlesTo (ls shown : List Text) : Prop where
  front : ∀ k : Nat, k + 1 < shown.length → ls[k]? = shown[k]?
  trimmed : ∀ k : Nat, trimEnd (ls[k]?.getD []) = trimEnd (shown[k]?.getD [])
  length_le : shown.length ≤ ls.length

section SettlesTo

variable {ls shown : List Text}

theorem SettlesTo.drop (h : SettlesTo ls shown) (n : Nat) :
    SettlesTo (ls.drop n) (shown.drop n) := by
  refine ⟨fun k hk => ?_, fun k => ?_, ?_⟩
  · rw [List.length_drop] at hk
    rw [List.getElem?_drop, List.getElem?_drop]
    exact h.front (n + k) (by omega)
  · rw [List.getElem?_drop, List.getElem?_drop]
    exact h.trimmed (n + k)
  · rw [List.length_drop, List.length_drop]
    exact Nat.sub_le_sub_right h.length_le n

theorem SettlesTo.append (h : SettlesTo ls shown) (front : List Text) :
    SettlesTo (front ++ ls) (front ++ shown) := by
  refine ⟨fun k hk => ?_, fun k => ?_, ?_⟩
  · by_cases hfront : k < front.length
    · rw [List.getElem?_append_left hfront, List.getElem?_append_left hfront]
    · rw [List.length_append] at hk
      rw [List.getElem?_append_right (Nat.le_of_not_lt hfront),
        List.getElem?_append_right (Nat.le_of_not_lt hfront)]
      exact h.front _ (by omega)
  · by_cases hfront : k < front.length
    · rw [List.getElem?_append_left hfront, List.getElem?_append_left hfront]
    · rw [List.getElem?_append_right (Nat.le_of_not_lt hfront),
        List.getElem?_append_right (Nat.le_of_not_lt hfront)]
      exact h.trimmed _
  · rw [List.length_append, List.length_append]
    exact Nat.add_le_add_left h.length_le _

end SettlesTo

theorem settlesTo_nil {ls : List Text} (h : ∀ l ∈ ls, trimEnd l = []) : SettlesTo ls [] := by
  refine ⟨fun k hk => absurd hk (Nat.not_lt_zero _), fun k => ?_, Nat.zero_le _⟩
  rw [List.getElem?_nil, Option.getD_none]
  cases hget : ls[k]? with
  | none => rfl
  | some l => exact h l (List.mem_of_getElem? hget)

theorem settlesTo_singleton {l x : Text} {blank : List Text} (hx : trimEnd x = l)
    (hblank : ∀ b ∈ blank, trimEnd b = []) : SettlesTo (x :: blank) [l] := by
  refine ⟨fun k hk => absurd (Nat.lt_of_succ_lt_succ hk) (Nat.not_lt_zero k), fun k => ?_,
    Nat.le_add_left 1 _⟩
  cases k with
  | zero =>
    rw [← hx]
    exact (trimEnd_trimEnd x).symm
  | succ k => exact (settlesTo_nil hblank).trimmed k

theorem trimEnd_dropReturn {l w : Text} (hlast : ∀ c ∈ l.getLast?, isBlank c = false)
    (hw : ∀ c ∈ w, isBlank c = true) : trimEnd (dropReturn (l ++ w)) = l := by
  by_cases hreturn : (l ++ w).getLast? = some '\r'
  · rw [dropReturn, if_pos hreturn]
    cases hrev : w.getLast? with
    | none =>
      rw [List.getLast?_append, hrev, Option.none_or] at hreturn
      exact absurd (hlast '\r' hreturn) (by decide)
    | some c =>
      have hne : w ≠ [] := by
        rintro rfl
        cases hrev
      rw [List.dropLast_append_of_ne_nil hne,
        trimEnd_append_blank l fun c hc => hw c ((List.dropLast_sublist w).subset hc)]
      exact trimEnd_eq_self hlast
  · rw [dropReturn, if_neg hreturn, trimEnd_append_blank l hw]
    exact trimEnd_eq_self hlast

theorem lines_of_blank_tail {l w : Text} (hl : '\n' ∉ l) (hne : l ≠ [])
    (hlast : ∀ c ∈ l.getLast?, isBlank c = false) (hw : ∀ c ∈ w, isBlank c = true) :
    ∃ x blank, lines (l ++ w) = x :: blank ∧ trimEnd x = l ∧ ∀ b ∈ blank, trimEnd b = [] := by
  by_cases hnewline : '\n' ∈ w
  · obtain ⟨u, v, rfl, hu⟩ := List.eq_append_cons_of_mem hnewline
    have hblankFront : ∀ c ∈ u, isBlank c = true :=
      fun c hc => hw c (List.mem_append_left _ hc)
    have hblankRest : ∀ c ∈ v, isBlank c = true :=
      fun c hc => hw c (List.mem_append_right _ (List.mem_cons_of_mem _ hc))
    refine ⟨dropReturn (l ++ u), lines v, ?_, trimEnd_dropReturn hlast hblankFront,
      trimEnd_of_mem_lines hblankRest⟩
    rw [← List.append_assoc]
    exact lines_append_newline (by simp [hl, hu]) v
  · refine ⟨l ++ w, [], lines_of_no_newline (by simp [hl, hnewline]) (by simp [hne]), ?_,
      fun b hb => absurd hb List.not_mem_nil⟩
    rw [trimEnd_append_blank l hw]
    exact trimEnd_eq_self hlast

theorem exists_last_line (t : Text) :
    ∃ a l, t = a ++ l ∧ (∀ c ∈ a.getLast?, c = '\n') ∧ '\n' ∉ l := by
  by_cases hnewline : '\n' ∈ t
  · obtain ⟨u, v, huv, hu⟩ := List.eq_append_cons_of_mem (List.mem_reverse.mpr hnewline)
    refine ⟨v.reverse ++ ['\n'], u.reverse, ?_, ?_, by simpa using hu⟩
    · rw [← List.reverse_reverse t, huv]
      simp
    · simp
  · exact ⟨[], t, rfl, fun c hc => (by cases hc), hnewline⟩

theorem lines_append_of_last {a : Text} (hpaired : ReturnsPaired a)
    (hlast : ∀ c ∈ a.getLast?, c = '\n') (t : Text) : lines (a ++ t) = lines a ++ lines t := by
  rw [lines_eq_map_lineOf hpaired hlast,
    ← lines_flatten_append (ended_of_mem_endedLines hpaired hlast),
    EditScript.endedLines_flatten]

theorem settledEnd_last (t : Text) : ∀ c ∈ (Patch.settledEnd t).getLast?, c = '\n' := by
  unfold Patch.settledEnd
  split
  · exact fun c hc => by cases hc
  · simp

theorem settledEnd_paired {t : Text} (h : ReturnsPaired t) :
    ReturnsPaired (Patch.settledEnd t) := by
  unfold Patch.settledEnd
  split
  · trivial
  · obtain ⟨w, hw, -⟩ := exists_blank_tail t
    rw [hw] at h
    refine (h.front fun hlast => ?_).append ⟨fun hc => absurd hc (by decide), trivial⟩
    exact absurd (not_blank_of_last_trimEnd '\r' hlast) (by decide)

/-- Settling the end of a text changes its lines at their end only. -/
theorem lines_settlesTo {t : Text} (hpaired : ReturnsPaired t) :
    SettlesTo (lines t) (lines (Patch.settledEnd t)) := by
  obtain ⟨w, ht, hblank⟩ := exists_blank_tail t
  unfold Patch.settledEnd
  split
  · rename_i hempty
    rw [List.isEmpty_iff.mp hempty, List.nil_append] at ht
    rw [lines_nil, ht]
    exact settlesTo_nil (trimEnd_of_mem_lines hblank)
  · rename_i hnonempty
    have hlast := not_blank_of_last_trimEnd (t := t)
    -- the text is the lines `a`, a last line `l` that is not blank, and the blanks `w`
    obtain ⟨a, l, hal, ha, hl⟩ := exists_last_line (trimEnd t)
    rw [hal] at ht hlast ⊢
    have hne : l ≠ [] := by
      rintro rfl
      rw [List.append_nil] at hal hlast
      cases hend : a.getLast? with
      | none =>
        rw [List.getLast?_eq_none_iff.mp hend] at hal
        exact hnonempty (List.isEmpty_iff.mpr hal)
      | some c =>
        obtain rfl := ha c hend
        exact absurd (hlast '\n' hend) (by decide)
    have hlastLine : ∀ c ∈ l.getLast?, isBlank c = false := by
      intro c hc
      refine hlast c ?_
      rw [List.getLast?_append, Option.mem_def.mp hc]
      rfl
    have hdrop : dropReturn l = l := by
      refine if_neg fun hreturn => ?_
      exact absurd (hlastLine '\r' hreturn) (by decide)
    have hfront : ReturnsPaired a := by
      rw [ht, List.append_assoc] at hpaired
      refine hpaired.front fun hreturn => ?_
      exact absurd (ha '\r' hreturn) (by decide)
    obtain ⟨x, blank, hlines, hx, hrest⟩ := lines_of_blank_tail hl hne hlastLine hblank
    rw [ht, List.append_assoc, List.append_assoc, lines_append_of_last hfront ha,
      lines_append_of_last hfront ha, hlines, lines_append_newline hl, lines_nil, hdrop]
    exact (settlesTo_singleton hx hrest).append (lines a)

end DiffBudget.Text
