import DiffBudget.Proofs.EditScript.Group

/-!
# Changes at the ends of a script

Only a change at an end of the script can have an index that does not say where it stands. Cutting
a script into groups neither drops such a change nor puts another change at an end of a group.
-/
namespace DiffBudget

namespace EditOp

def BeginsAt (op : EditOp) (i j : Nat) : Prop := op.oldIndex = i ∧ op.newIndex = j

def EndsAt (op : EditOp) (i j : Nat) : Prop := op.oldEnd = i ∧ op.newEnd = j

instance (op : EditOp) (i j : Nat) : Decidable (op.BeginsAt i j) :=
  inferInstanceAs (Decidable (_ ∧ _))

instance (op : EditOp) (i j : Nat) : Decidable (op.EndsAt i j) :=
  inferInstanceAs (Decidable (_ ∧ _))

end EditOp

namespace EditScript

variable {radius : Nat}

def frontChange (ops : List EditOp) : Option EditOp := ops.head?.filter (·.tag != .equal)

def backChange (ops : List EditOp) : Option EditOp := ops.getLast?.filter (·.tag != .equal)

/-- A change at an end of the script has the indices of this end. -/
structure EndsInPlace {α : Type} (old new : Array α) (script : List EditOp) : Prop where
  front : ∀ op ∈ frontChange script, op.BeginsAt 0 0
  back : ∀ op ∈ backChange script, op.EndsAt old.size new.size

theorem frontChange_cons_equal {op : EditOp} (h : op.tag = .equal) (ops : List EditOp) :
    frontChange (op :: ops) = none := by
  simp [frontChange, h]

theorem backChange_singleton_equal {op : EditOp} (h : op.tag = .equal) :
    backChange [op] = none := by
  simp [backChange, h]

theorem backChange_cons {ops : List EditOp} (h : ops ≠ []) (op : EditOp) :
    backChange (op :: ops) = backChange ops := by
  obtain ⟨next, rest, rfl⟩ := List.exists_cons_of_ne_nil h
  rw [backChange, backChange, List.getLast?_cons_cons]

theorem keepBack_tag (radius : Nat) (op : EditOp) : (keepBack radius op).tag = op.tag :=
  EditOp.resize_tag _ _

theorem keepFront_tag (radius : Nat) (op : EditOp) : (keepFront radius op).tag = op.tag :=
  EditOp.resize_tag _ _

theorem frontChange_trimFront (ops : List EditOp) :
    frontChange (trimFront radius ops) = frontChange ops := by
  cases ops with
  | nil => rfl
  | cons op ops =>
    rw [trimFront]
    split
    · rename_i hequal
      rw [frontChange_cons_equal ((keepBack_tag radius op).trans hequal),
        frontChange_cons_equal hequal]
    · rfl

theorem backChange_trimFront (ops : List EditOp) :
    backChange (trimFront radius ops) = backChange ops := by
  cases ops with
  | nil => rfl
  | cons op ops =>
    rw [trimFront]
    split
    · rename_i hequal
      cases ops with
      | nil =>
        rw [backChange_singleton_equal ((keepBack_tag radius op).trans hequal),
          backChange_singleton_equal hequal]
      | cons next ops =>
        rw [backChange_cons (List.cons_ne_nil _ _), backChange_cons (List.cons_ne_nil _ _)]
    · rfl

theorem trimBack_ne_nil {ops : List EditOp} (h : ops ≠ []) : trimBack radius ops ≠ [] := by
  fun_cases trimBack radius ops <;> simp_all

theorem frontChange_trimBack (ops : List EditOp) :
    frontChange (trimBack radius ops) = frontChange ops := by
  fun_cases trimBack radius ops with
  | case1 => rfl
  | case2 op =>
    split
    · rename_i hequal
      rw [frontChange_cons_equal ((keepFront_tag radius op).trans hequal),
        frontChange_cons_equal hequal]
    · rfl
  | case3 op ops hne => rfl

theorem backChange_trimBack (ops : List EditOp) :
    backChange (trimBack radius ops) = backChange ops := by
  fun_induction trimBack radius ops with
  | case1 => rfl
  | case2 op =>
    split
    · rename_i hequal
      rw [backChange_singleton_equal ((keepFront_tag radius op).trans hequal),
        backChange_singleton_equal hequal]
    · rfl
  | case3 op ops hne ih => rw [backChange_cons (trimBack_ne_nil hne), backChange_cons hne, ih]

theorem cutRuns_frontChange (radius : Nat) (ops : List EditOp) :
    ∃ g gs, cutRuns radius ops = g :: gs ∧ frontChange g = frontChange ops ∧
      ∀ other ∈ gs, frontChange other = none := by
  induction ops with
  | nil => exact ⟨[], [], rfl, rfl, by simp⟩
  | cons op ops ih =>
    obtain ⟨g, gs, hcut, -, hothers⟩ := ih
    simp only [cutRuns, hcut]
    split
    · rename_i hlong
      have hfront := frontChange_cons_equal ((keepFront_tag radius op).trans hlong.1)
      have hback := frontChange_cons_equal ((keepBack_tag radius op).trans hlong.1)
      refine ⟨_, _, rfl, ?_, List.forall_mem_cons.mpr ⟨hback g, hothers⟩⟩
      rw [hfront, frontChange_cons_equal hlong.1]
    · exact ⟨_, _, rfl, rfl, hothers⟩

theorem cutRuns_backChange (radius : Nat) (ops : List EditOp) :
    ∃ g gs, cutRuns radius ops = g :: gs ∧ (g = [] → ops = [] ∧ gs = []) ∧
      (g :: gs).filterMap backChange = (backChange ops).toList := by
  induction ops with
  | nil => exact ⟨[], [], rfl, fun _ => ⟨rfl, rfl⟩, rfl⟩
  | cons op ops ih =>
    obtain ⟨g, gs, hcut, hempty, hchanges⟩ := ih
    simp only [cutRuns, hcut]
    -- the new operation ends a group only where the script has no other
    have hgrown : ∀ kept : EditOp, kept.tag = op.tag → backChange [kept] = backChange [op] →
        ((kept :: g) :: gs).filterMap backChange = (backChange (op :: ops)).toList := by
      intro kept htag hkept
      cases g with
      | nil =>
        obtain ⟨rfl, rfl⟩ := hempty rfl
        rw [List.filterMap_cons, hkept]
        cases backChange [op] <;> rfl
      | cons next g =>
        have hops : ops ≠ [] := by
          rintro rfl
          cases hcut
        rw [List.filterMap_cons, backChange_cons (List.cons_ne_nil _ _), ← List.filterMap_cons,
          hchanges, backChange_cons hops]
    split
    · rename_i hlong
      have hfront := backChange_singleton_equal ((keepFront_tag radius op).trans hlong.1)
      have hback := backChange_singleton_equal ((keepBack_tag radius op).trans hlong.1)
      refine ⟨_, _, rfl, fun h => absurd h (List.cons_ne_nil _ _), ?_⟩
      rw [List.filterMap_cons, hfront]
      refine hgrown _ (keepBack_tag radius op) ?_
      rw [hback, backChange_singleton_equal hlong.1]
    · exact ⟨_, _, rfl, fun h => absurd h (List.cons_ne_nil _ _), hgrown op rfl rfl⟩

theorem filterMap_filter_changes {f : List EditOp → Option EditOp}
    (hf : ∀ g op, f g = some op → op ∈ g ∧ op.tag ≠ .equal) (gs : List (List EditOp)) :
    (gs.filter fun g => g.any (·.tag != .equal)).filterMap f = gs.filterMap f := by
  induction gs with
  | nil => rfl
  | cons g gs ih =>
    by_cases hg : g.any (·.tag != .equal) = true
    · rw [List.filter_cons, if_pos hg, List.filterMap_cons, List.filterMap_cons, ih]
    · have hnone : f g = none := by
        cases hfg : f g with
        | none => rfl
        | some op =>
          obtain ⟨hmem, hchange⟩ := hf g op hfg
          exact absurd (List.any_eq_true.mpr ⟨op, hmem, by simpa using hchange⟩) hg
      rw [List.filter_cons, if_neg hg, List.filterMap_cons, hnone, ih]

theorem mem_of_frontChange {g : List EditOp} {op : EditOp} (h : frontChange g = some op) :
    op ∈ g.head? ∧ op.tag ≠ .equal := by
  obtain ⟨hhead, htag⟩ := Option.filter_eq_some_iff.mp h
  exact ⟨hhead, by simpa using htag⟩

theorem mem_of_backChange {g : List EditOp} {op : EditOp} (h : backChange g = some op) :
    op ∈ g.getLast? ∧ op.tag ≠ .equal := by
  obtain ⟨hlast, htag⟩ := Option.filter_eq_some_iff.mp h
  exact ⟨hlast, by simpa using htag⟩

theorem groups_frontChange (radius : Nat) (script : List EditOp) :
    (groups radius script).filterMap frontChange = (frontChange script).toList := by
  obtain ⟨g, gs, hcut, hfront, hothers⟩ :=
    cutRuns_frontChange radius (trimBack radius (trimFront radius script))
  rw [groups, filterMap_filter_changes fun g op h =>
    ⟨List.mem_of_mem_head? (mem_of_frontChange h).1, (mem_of_frontChange h).2⟩, hcut,
    List.filterMap_cons, hfront, frontChange_trimBack, frontChange_trimFront,
    List.filterMap_eq_nil_iff.mpr hothers]
  cases frontChange script <;> rfl

theorem groups_backChange (radius : Nat) (script : List EditOp) :
    (groups radius script).filterMap backChange = (backChange script).toList := by
  obtain ⟨g, gs, hcut, -, hback⟩ :=
    cutRuns_backChange radius (trimBack radius (trimFront radius script))
  rw [groups, filterMap_filter_changes fun g op h =>
    ⟨List.mem_of_mem_getLast? (mem_of_backChange h).1, (mem_of_backChange h).2⟩, hcut, hback,
    backChange_trimBack, backChange_trimFront]

end EditScript
end DiffBudget
