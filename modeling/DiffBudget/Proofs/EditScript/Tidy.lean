import DiffBudget.Proofs.EditScript.Slide
import Mathlib.Data.List.SplitBy

/-!
# Joined scripts

After the changes have slid, neighbours are joined: a run of equal runs becomes one, and a run of
changes becomes a deletion, an insertion or a replacement. A replacement has both indices of its
place. A deletion or an insertion that stays alone has one of them, and the other is some index
of the sequence that it does not cover.
-/
namespace DiffBudget.EditScript

variable {α : Type} {old new : Array α} {total : Nat} {p r : Place} {ops run : List EditOp}

def Tidy (old new : Array α) (p : Place) (op : EditOp) : Prop :=
  match op.tag with
  | .equal => op.oldIndex = p.old ∧ op.newIndex = p.new ∧ op.newCount = op.oldCount ∧
      0 < op.oldCount ∧ Alike old new p.old p.new op.oldCount
  | .delete => op.oldIndex = p.old ∧ op.newCount = 0 ∧ op.newIndex ≤ new.size
  | .insert => op.newIndex = p.new ∧ op.oldCount = 0 ∧ op.oldIndex ≤ old.size
  | .replace => op.oldIndex = p.old ∧ op.newIndex = p.new

theorem Tidy.cases {op : EditOp} (h : Tidy old new p op) :
    (∃ n, 0 < n ∧ Alike old new p.old p.new n ∧ op = .equal p.old p.new n) ∨
    (∃ n x, x ≤ new.size ∧ op = .delete p.old n x) ∨
    (∃ x m, x ≤ old.size ∧ op = .insert x p.new m) ∨
    ∃ n m, op = ⟨.replace, p.old, n, p.new, m⟩ := by
  obtain ⟨tag, oldIndex, oldCount, newIndex, newCount⟩ := op
  simp only [Tidy] at h
  cases tag with
  | equal =>
    obtain ⟨rfl, rfl, rfl, hpos, halike⟩ := h
    exact .inl ⟨newCount, hpos, halike, rfl⟩
  | delete =>
    obtain ⟨rfl, rfl, hbound⟩ := h
    exact .inr (.inl ⟨oldCount, newIndex, hbound, rfl⟩)
  | insert =>
    obtain ⟨rfl, rfl, hbound⟩ := h
    exact .inr (.inr (.inl ⟨oldIndex, newCount, hbound, rfl⟩))
  | replace =>
    obtain ⟨rfl, rfl⟩ := h
    exact .inr (.inr (.inr ⟨oldCount, newCount, rfl⟩))

theorem foldl_equals {n : Nat} (halike : Alike old new p.old p.new n) (hn : 0 < n)
    (hops : Walk (Simple old new total) (p.skip n) ops r) (hequal : ∀ op ∈ ops, op.tag = .equal) :
    ∃ m, ops.foldl (fun a b => a.growRight b.oldCount) (EditOp.equal p.old p.new n) =
      EditOp.equal p.old p.new m ∧ 0 < m ∧ Alike old new p.old p.new m ∧ p.skip m = r := by
  induction ops generalizing n with
  | nil => exact ⟨n, rfl, hn, halike, hops⟩
  | cons op ops ih =>
    obtain ⟨hop, hops⟩ := hops
    have hrest := fun o ho => hequal o (List.mem_cons_of_mem op ho)
    obtain ⟨k, hk, hrun, rfl⟩ | ⟨k, x, -, rfl⟩ | ⟨x, k, -, rfl⟩ := hop.cases
    · rw [Place.after_equal, Place.skip_skip] at hops
      exact ih (halike.append hrun) (Nat.add_pos_left hn k) hops hrest
    · cases hequal _ List.mem_cons_self
    · cases hequal _ List.mem_cons_self

theorem growRight_growRight (op : EditOp) (a b : Nat) :
    (op.growRight a).growRight b = op.growRight (a + b) := by
  obtain ⟨tag, oldIndex, oldCount, newIndex, newCount⟩ := op
  cases tag <;> simp only [EditOp.growRight, EditOp.resize, Nat.add_assoc]

theorem growRight_zero (op : EditOp) : op.growRight 0 = op := by
  obtain ⟨tag, oldIndex, oldCount, newIndex, newCount⟩ := op
  cases tag <;> rfl

theorem foldl_joinSame (op : EditOp) (ops : List EditOp) :
    ops.foldl joinSame op = op.growRight (sumOf width ops) := by
  induction ops generalizing op with
  | nil => exact (growRight_zero op).symm
  | cons next ops ih => rw [List.foldl_cons, ih, joinSame, growRight_growRight, sumOf_cons]

theorem covered_by_changes (hops : Walk (Simple old new total) p ops r)
    (hchange : ∀ op ∈ ops, op.tag ≠ .equal) :
    r.kept = p.kept ∧
    (r.old = p.old + sumOf width (ops.filter (·.tag == .delete)) ∧
      ∀ op ∈ (ops.filter (·.tag == .delete)).head?, ∃ n x,
        x ≤ p.kept + (new.size - total) ∧ op = .delete p.old n x) ∧
    (r.new = p.new + sumOf width (ops.filter (·.tag == .insert)) ∧
      ∀ op ∈ (ops.filter (·.tag == .insert)).head?, ∃ x m,
        x ≤ p.kept + (old.size - total) ∧ op = .insert x p.new m) := by
  induction ops generalizing p with
  | nil =>
    obtain rfl := walk_nil.mp hops
    simp
  | cons op ops ih =>
    obtain ⟨hop, hops⟩ := hops
    obtain ⟨hkept, ⟨hold, hdeletes⟩, hnew, hinserts⟩ :=
      ih hops fun o ho => hchange o (List.mem_cons_of_mem op ho)
    obtain ⟨k, -, -, rfl⟩ | ⟨k, x, hx, rfl⟩ | ⟨x, k, hx, rfl⟩ := hop.cases
    · exact absurd rfl (hchange _ List.mem_cons_self)
    · rw [List.filter_cons_of_pos rfl, List.filter_cons_of_neg (by simp [EditOp.delete]),
        sumOf_cons]
      refine ⟨hkept, ⟨?_, ?_⟩, hnew, hinserts⟩
      · rw [hold, Place.after_delete, ← Nat.add_assoc]
        rfl
      · rintro op ⟨⟩
        exact ⟨k, x, hx, rfl⟩
    · rw [List.filter_cons_of_neg (by simp [EditOp.insert]), List.filter_cons_of_pos rfl,
        sumOf_cons]
      refine ⟨hkept, ⟨hold, hdeletes⟩, ?_, ?_⟩
      · rw [hnew, Place.after_insert, ← Nat.add_assoc]
        rfl
      · rintro op ⟨⟩
        exact ⟨x, k, hx, rfl⟩

theorem changeOf_walks (hops : Walk (Simple old new total) p ops r)
    (hchange : ∀ op ∈ ops, op.tag ≠ .equal) (hold : p.kept + (old.size - total) ≤ old.size)
    (hnew : p.kept + (new.size - total) ≤ new.size) :
    Walk (Tidy old new) p (changeOf ops) r := by
  obtain ⟨rold, rnew, rkept⟩ := r
  obtain ⟨rfl, ⟨rfl, hdeletes⟩, rfl, hinserts⟩ := covered_by_changes hops hchange
  cases hd : ops.filter (·.tag == .delete) with
  | nil =>
    cases hi : ops.filter (·.tag == .insert) with
    | nil =>
      simp only [changeOf, hd, hi]
      rfl
    | cons i is =>
      rw [hi] at hinserts
      obtain ⟨x, m, hx, rfl⟩ := hinserts i rfl
      simp only [changeOf, hd, hi, foldl_joinSame, sumOf_cons]
      exact ⟨⟨rfl, rfl, Nat.le_trans hx hold⟩, rfl⟩
  | cons d ds =>
    rw [hd] at hdeletes
    obtain ⟨n, y, hy, rfl⟩ := hdeletes d rfl
    cases hi : ops.filter (·.tag == .insert) with
    | nil =>
      simp only [changeOf, hd, hi, foldl_joinSame, sumOf_cons]
      exact ⟨⟨rfl, rfl, Nat.le_trans hy hnew⟩, rfl⟩
    | cons i is =>
      rw [hi] at hinserts
      obtain ⟨x, m, hx, rfl⟩ := hinserts i rfl
      simp only [changeOf, hd, hi, foldl_joinSame, sumOf_cons]
      exact ⟨⟨rfl, rfl⟩, rfl⟩

def OneKind (run : List EditOp) : Prop :=
  (∀ op ∈ run, op.tag = .equal) ∨ ∀ op ∈ run, op.tag ≠ .equal

theorem joinRun_walks (hrun : Walk (Simple old new total) p run r) (hkind : OneKind run)
    (hold : p.kept + (old.size - total) ≤ old.size)
    (hnew : p.kept + (new.size - total) ≤ new.size) : Walk (Tidy old new) p (joinRun run) r := by
  cases run with
  | nil => exact hrun
  | cons op ops =>
    rw [joinRun]
    split
    · rename_i htag
      rcases hkind with hequal | hchange
      · obtain ⟨n, hn, halike, rfl⟩ | ⟨n, x, -, rfl⟩ | ⟨x, n, -, rfl⟩ := hrun.1.cases
        · obtain ⟨m, hfold, hm, hall, hend⟩ := foldl_equals halike hn hrun.2
            fun o ho => hequal o (List.mem_cons_of_mem _ ho)
          rw [hfold]
          exact ⟨⟨rfl, rfl, rfl, hm, hall⟩, hend⟩
        · cases htag
        · cases htag
      · exact absurd htag (hchange op List.mem_cons_self)
    · rename_i htag
      rcases hkind with hequal | hchange
      · exact absurd (hequal op List.mem_cons_self) htag
      · exact changeOf_walks hrun hchange hold hnew

theorem oneKind_of_chain
    (h : run.IsChain fun a b => ((a.tag == .equal) == (b.tag == .equal)) = true) :
    OneKind run := by
  induction run with
  | nil => exact .inl fun op hop => absurd hop List.not_mem_nil
  | cons op ops ih =>
    cases ops with
    | nil =>
      by_cases htag : op.tag = .equal
      · exact .inl (by simpa using htag)
      · exact .inr (by simpa using htag)
    | cons next ops =>
      have hsame := (List.isChain_cons_cons.mp h).1
      rw [beq_iff_eq, Bool.eq_iff_iff, beq_iff_eq, beq_iff_eq] at hsame
      rcases ih h.tail with hequal | hchange
      · exact .inl (List.forall_mem_cons.mpr
          ⟨hsame.mpr (hequal next List.mem_cons_self), hequal⟩)
      · exact .inr (List.forall_mem_cons.mpr
          ⟨mt hsame.mp (hchange next List.mem_cons_self), hchange⟩)

theorem flatMap_joinRun_walks {runs : List (List EditOp)}
    (hruns : Walk (Simple old new total) p runs.flatten r) (hkind : ∀ run ∈ runs, OneKind run)
    (hold : r.kept + (old.size - total) ≤ old.size)
    (hnew : r.kept + (new.size - total) ≤ new.size) :
    Walk (Tidy old new) p (runs.flatMap joinRun) r := by
  induction runs generalizing p with
  | nil => exact hruns
  | cons run runs ih =>
    rw [List.flatten_cons] at hruns
    obtain ⟨q, hrun, hrest⟩ := walk_append.mp hruns
    have hkept := hruns.places_le.2.2
    refine walk_append.mpr ⟨q, ?_, ih hrest fun g hg => hkind g (List.mem_cons_of_mem _ hg)⟩
    exact joinRun_walks hrun (hkind run List.mem_cons_self) (by omega) (by omega)

theorem tidy_walks [DecidableEq α] (old new : Array α) :
    ∃ c, Walk (Tidy old new) ⟨0, 0, 0⟩ (tidy old new (shortest old new))
      ⟨old.size, new.size, c⟩ := by
  obtain ⟨c, hold, hnew, hwalk⟩ := shortest_walks old new
  have hslid := slideAll_walks (by decide : EditTag.insert ≠ .equal)
    (slideAll_walks (by decide : EditTag.delete ≠ .equal) hwalk)
  rw [← List.flatten_splitBy (fun a b => (a.tag == .equal) == (b.tag == .equal))
    (slideAll _ _ _ _)] at hslid
  refine ⟨c, flatMap_joinRun_walks hslid ?_ ?_ ?_⟩
  · exact fun run hrun => oneKind_of_chain (List.isChain_of_mem_splitBy hrun)
  · exact Nat.le_of_eq (Nat.add_sub_cancel' hold)
  · exact Nat.le_of_eq (Nat.add_sub_cancel' hnew)

end DiffBudget.EditScript
