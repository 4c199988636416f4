import DiffBudget.Regex.Preference
import Mathlib.Data.List.Perm.Subperm

/-!
# Preference lists the same places

The order of preference says which of the possible ends comes first, and not which ends there are:
the places listed in that order are those of `ends`. A repetition leads to the same places whether
they are gathered step by step until no new ones come, or one step after another with the longest
way first; a step that does not go on may be left out of a way.
-/
namespace DiffBudget.Regex

theorem nodup_eraseDups (places : List Nat) : places.eraseDups.Nodup := by
  match places with
  | [] => exact List.nodup_nil
  | i :: rest =>
    rw [List.eraseDups_cons]
    refine List.nodup_cons.mpr ⟨?_, nodup_eraseDups _⟩
    rw [List.mem_eraseDups, List.mem_filter]
    rintro ⟨-, hne⟩
    simp at hne
termination_by places.length
decreasing_by exact Nat.lt_succ_of_le (List.length_filter_le _ _)

section Steps

variable {step : List Nat → List Nat} {next : Nat → List Nat}

theorem mem_walk (hstep : ∀ places j, j ∈ step places ↔ ∃ i ∈ places, j ∈ next i) (n : Nat)
    (places : List Nat) (j : Nat) :
    j ∈ walk step n places ↔ ∃ i ∈ places, j ∈ inTurn next n i := by
  induction n generalizing places with
  | zero => simp [walk, inTurn]
  | succ n ih =>
    rw [walk]
    split
    · rename_i hempty
      simp [List.isEmpty_iff.mp hempty]
    · rw [ih]
      simp only [hstep, inTurn, List.mem_flatMap]
      constructor
      · rintro ⟨k, ⟨i, hi, hk⟩, hj⟩
        exact ⟨i, hi, k, hk, hj⟩
      · rintro ⟨i, hi, k, hk, hj⟩
        exact ⟨k, ⟨i, hi, hk⟩, hj⟩

theorem nodup_walk (hnodup : ∀ places, (step places).Nodup) (n : Nat) {places : List Nat}
    (h : places.Nodup) : (walk step n places).Nodup := by
  induction n generalizing places with
  | zero => exact h
  | succ n ih =>
    rw [walk]
    split
    · exact List.nodup_nil
    · exact ih (hnodup places)

/-- Places from which no step leads to a new one are never left. -/
theorem mem_of_inTurn {places : List Nat} (hclosed : ∀ i ∈ places, ∀ j ∈ next i, j ∈ places)
    {n i j : Nat} (hi : i ∈ places) (hj : j ∈ inTurn next n i) : j ∈ places := by
  induction n generalizing i with
  | zero => rwa [List.mem_singleton.mp hj]
  | succ n ih =>
    obtain ⟨k, hk, hj⟩ := List.mem_flatMap.mp hj
    exact ih (hclosed i hi k hk) hj

theorem mem_grow (hstep : ∀ places j, j ∈ step places ↔ ∃ i ∈ places, j ∈ next i) (n : Nat)
    {places : List Nat} (h : places.Nodup) (j : Nat) :
    j ∈ grow step n places ↔ ∃ i ∈ places, ∃ m ≤ n, j ∈ inTurn next m i := by
  induction n generalizing places with
  | zero => simp [grow, inTurn]
  | succ n ih =>
    have hnext : ∀ k, k ∈ (places ++ step places).eraseDups ↔
        k ∈ places ∨ ∃ i ∈ places, k ∈ next i := by
      intro k
      rw [List.mem_eraseDups, List.mem_append, hstep]
    rw [grow]
    split
    · rename_i hlength
      -- as many places as before, so the same ones, and no step leads out of them
      have hsame : (places ++ step places).eraseDups ⊆ places := by
        have hsub : places ⊆ (places ++ step places).eraseDups :=
          fun k hk => (hnext k).mpr (.inl hk)
        exact ((List.subperm_of_subset h hsub).perm_of_length_le (Nat.le_of_eq hlength)).symm.subset
      have hclosed : ∀ i ∈ places, ∀ k ∈ next i, k ∈ places :=
        fun i hi k hk => hsame ((hnext k).mpr (.inr ⟨i, hi, hk⟩))
      constructor
      · intro hj
        exact ⟨j, hj, 0, Nat.zero_le _, List.mem_singleton_self j⟩
      · rintro ⟨i, hi, m, -, hj⟩
        exact mem_of_inTurn hclosed hi hj
    · rw [ih (nodup_eraseDups _)]
      constructor
      · rintro ⟨k, hk, m, hm, hj⟩
        rcases (hnext k).mp hk with hk | ⟨i, hi, hk⟩
        · exact ⟨k, hk, m, Nat.le_succ_of_le hm, hj⟩
        · exact ⟨i, hi, m + 1, Nat.succ_le_succ hm, List.mem_flatMap.mpr ⟨k, hk, hj⟩⟩
      · rintro ⟨i, hi, m, hm, hj⟩
        cases m with
        | zero => exact ⟨i, (hnext i).mpr (.inl hi), 0, Nat.zero_le _, hj⟩
        | succ m =>
          obtain ⟨k, hk, hj⟩ := List.mem_flatMap.mp hj
          exact ⟨k, (hnext k).mpr (.inr ⟨i, hi, hk⟩), m, Nat.le_of_succ_le_succ hm, hj⟩

theorem asOften_mono {n i j : Nat} (hj : j ∈ asOften next n i) : j ∈ asOften next (n + 1) i := by
  induction n generalizing i with
  | zero => exact List.mem_append_right _ hj
  | succ n ih =>
    rw [asOften, List.mem_append, List.mem_flatMap] at hj ⊢
    rcases hj with ⟨k, hk, hj⟩ | hj
    · refine .inl ⟨k, hk, ?_⟩
      split
      · rwa [if_pos ‹_›] at hj
      · rw [if_neg ‹_›] at hj
        exact ih hj
    · exact .inr hj

theorem mem_asOften (n i j : Nat) :
    j ∈ asOften next n i ↔ ∃ m ≤ n, j ∈ inTurn next m i := by
  constructor
  · intro hj
    induction n generalizing i with
    | zero => exact ⟨0, Nat.le_refl 0, hj⟩
    | succ n ih =>
      rw [asOften, List.mem_append, List.mem_flatMap] at hj
      rcases hj with ⟨k, hk, hj⟩ | hj
      · split at hj
        · exact ⟨0, Nat.zero_le _, hj⟩
        · obtain ⟨m, hm, hj⟩ := ih k hj
          exact ⟨m + 1, Nat.succ_le_succ hm, List.mem_flatMap.mpr ⟨k, hk, hj⟩⟩
      · exact ⟨0, Nat.zero_le _, hj⟩
  · rintro ⟨m, hm, hj⟩
    induction n generalizing i m with
    | zero =>
      rw [Nat.le_zero.mp hm] at hj
      exact hj
    | succ n ih =>
      cases m with
      | zero => exact List.mem_append_right _ hj
      | succ m =>
        obtain ⟨k, hk, hj⟩ := List.mem_flatMap.mp hj
        have hrest := ih k m (Nat.le_of_succ_le_succ hm) hj
        by_cases hki : k = i
        · rw [hki] at hrest
          exact asOften_mono hrest
        · refine List.mem_append_left _ (List.mem_flatMap.mpr ⟨k, hk, ?_⟩)
          rwa [if_neg hki]

end Steps

/-- The choices are the places where a stretch can end. -/
theorem mem_choices_iff (text : Array Char) (r : Regex) (i j : Nat) :
    j ∈ choices text r i ↔ j ∈ ends text r i := by
  induction r generalizing i j with
  | empty => rfl
  | char c => rfl
  | look a => rfl
  | seq a b iha ihb => simp only [choices, ends, List.mem_eraseDups, List.mem_flatMap, iha, ihb]
  | alt a b iha ihb => simp only [choices, ends, List.mem_eraseDups, List.mem_append, iha, ihb]
  | times a least most ih =>
    let step (places : List Nat) := (places.flatMap fun k => ends text a k).eraseDups
    have hstep : ∀ places k, k ∈ step places ↔ ∃ i ∈ places, k ∈ choices text a i := by
      intro places k
      simp only [step, List.mem_eraseDups, List.mem_flatMap, ih]
    have hfirst : (walk step least [i]).Nodup :=
      nodup_walk (fun _ => nodup_eraseDups _) least (List.pairwise_singleton _ i)
    have hgrow : ∀ more, j ∈ grow step more (walk step least [i]) ↔
        j ∈ (inTurn (choices text a) least i).flatMap (asOften (choices text a) more) := by
      intro more
      rw [mem_grow hstep more hfirst, List.mem_flatMap]
      simp only [mem_walk hstep, List.mem_singleton, exists_eq_left, mem_asOften]
    cases most with
    | none => exact (hgrow _).symm
    | some m => exact (hgrow _).symm

theorem mem_ends_of_pick? {text : Array Char} {r : Regex} {i j : Nat}
    (h : pick? text r i = some j) : j ∈ ends text r i :=
  (mem_choices_iff text r i j).mp (List.mem_of_head? h)

end DiffBudget.Regex
