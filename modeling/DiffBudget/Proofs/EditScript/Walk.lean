import DiffBudget.EditScript.Shortest

/-!
# Where an edit script leads

A place is a pair of indices, together with the number of items that were kept on the way to it.
A script walks from one place to another when each of its operations fits the place where it
stands. The shortest script of two sequences walks from their starts to their ends.

The index of a change on the side that it does not cover may differ from its place, since other
changes pass it later. It stays within what is removed or added in total, which is all that is
asked of it here.
-/
namespace DiffBudget.EditScript

variable {α : Type} {old new : Array α}

/-- `count` items from `i` on are those from `j` on. -/
def Alike (old new : Array α) (i j count : Nat) : Prop :=
  ∀ k < count, i + k < old.size ∧ old[i + k]? = new[j + k]?

theorem alike_zero (old new : Array α) (i j : Nat) : Alike old new i j 0 :=
  fun k hk => absurd hk (Nat.not_lt_zero k)

theorem Alike.part {i j count a b : Nat} (h : Alike old new i j count) (hab : a + b ≤ count) :
    Alike old new (i + a) (j + a) b := by
  intro k hk
  have hpart := h (a + k) (by omega)
  rwa [← Nat.add_assoc, ← Nat.add_assoc] at hpart

theorem Alike.front {i j count a : Nat} (h : Alike old new i j count) (ha : a ≤ count) :
    Alike old new i j a := fun k hk => h k (Nat.lt_of_lt_of_le hk ha)

theorem Alike.append {i j a b : Nat} (h₁ : Alike old new i j a)
    (h₂ : Alike old new (i + a) (j + a) b) : Alike old new i j (a + b) := by
  intro k hk
  by_cases hka : k < a
  · exact h₁ k hka
  · have hback := h₂ (k - a) (by omega)
    rwa [show i + a + (k - a) = i + k by omega, show j + a + (k - a) = j + k by omega] at hback

theorem alike_commonFront [DecidableEq α] (old new : Array α) (i j limit : Nat) :
    Alike old new i j (commonFront old new i j limit) := by
  induction limit generalizing i j with
  | zero => exact fun k hk => absurd hk (Nat.not_lt_zero k)
  | succ limit ih =>
    rw [commonFront]
    split
    · rename_i hitem
      intro k hk
      cases k with
      | zero => exact hitem
      | succ k =>
        have hnext := ih (i + 1) (j + 1) k (by omega)
        rwa [Nat.add_assoc, Nat.add_assoc, Nat.add_comm 1 k] at hnext
    · exact fun k hk => absurd hk (Nat.not_lt_zero k)

theorem alike_commonBack [DecidableEq α] (old new : Array α) (i j limit : Nat) :
    commonBack old new i j limit ≤ i ∧ commonBack old new i j limit ≤ j ∧
      Alike old new (i - commonBack old new i j limit) (j - commonBack old new i j limit)
        (commonBack old new i j limit) := by
  induction limit generalizing i j with
  | zero => cases i <;> cases j <;> simp [commonBack, Alike]
  | succ limit ih =>
    cases i with
    | zero => cases j <;> simp [commonBack, Alike]
    | succ i =>
      cases j with
      | zero => simp [commonBack, Alike]
      | succ j =>
        obtain ⟨hi, hj, halike⟩ := ih i j
        rw [commonBack]
        split
        · rename_i hitem
          refine ⟨by omega, by omega, ?_⟩
          rw [Nat.add_sub_add_right, Nat.add_sub_add_right]
          refine halike.append fun k hk => ?_
          obtain rfl : k = 0 := by omega
          rwa [Nat.add_zero, Nat.add_zero, Nat.sub_add_cancel hi, Nat.sub_add_cancel hj]
        · simp [Alike]

@[ext]
structure Place where
  old : Nat
  new : Nat
  kept : Nat

namespace Place

def skip (p : Place) (count : Nat) : Place := ⟨p.old + count, p.new + count, p.kept + count⟩

def after (p : Place) (op : EditOp) : Place :=
  ⟨p.old + op.oldCount, p.new + op.newCount,
    p.kept + if op.tag = .equal then op.oldCount else 0⟩

@[simp] theorem skip_zero (p : Place) : p.skip 0 = p := rfl

theorem skip_skip (p : Place) (a b : Nat) : (p.skip a).skip b = p.skip (a + b) := by
  simp only [skip, Nat.add_assoc]

@[simp] theorem after_equal (p : Place) (i j n : Nat) : p.after (.equal i j n) = p.skip n := rfl

@[simp] theorem after_delete (p : Place) (i n j : Nat) :
    p.after (.delete i n j) = ⟨p.old + n, p.new, p.kept⟩ := rfl

@[simp] theorem after_insert (p : Place) (i j m : Nat) :
    p.after (.insert i j m) = ⟨p.old, p.new + m, p.kept⟩ := rfl

end Place

/-- The operations lead from `p` to `q`, where each fits the place at which it stands. -/
def Walk (fits : Place → EditOp → Prop) (p : Place) : List EditOp → Place → Prop
  | [], q => p = q
  | op :: ops, q => fits p op ∧ Walk fits (p.after op) ops q

section Walk

variable {fits : Place → EditOp → Prop} {p q r : Place} {op : EditOp} {ops : List EditOp}

@[simp] theorem walk_nil : Walk fits p [] q ↔ p = q := Iff.rfl

@[simp] theorem walk_cons : Walk fits p (op :: ops) q ↔ fits p op ∧ Walk fits (p.after op) ops q :=
  Iff.rfl

theorem walk_append {front back : List EditOp} :
    Walk fits p (front ++ back) r ↔ ∃ q, Walk fits p front q ∧ Walk fits q back r := by
  induction front generalizing p with
  | nil => simp
  | cons op front ih => simp only [List.cons_append, walk_cons, ih, and_assoc, exists_and_left]

theorem walk_reverse_cons : Walk fits p (op :: ops).reverse r ↔
    ∃ q, Walk fits p ops.reverse q ∧ fits q op ∧ q.after op = r := by
  simp only [List.reverse_cons, walk_append, walk_cons, walk_nil]

theorem Walk.places_le (h : Walk fits p ops q) :
    p.old ≤ q.old ∧ p.new ≤ q.new ∧ p.kept ≤ q.kept := by
  induction ops generalizing p with
  | nil =>
    obtain rfl := walk_nil.mp h
    exact ⟨Nat.le_refl _, Nat.le_refl _, Nat.le_refl _⟩
  | cons op ops ih =>
    have hrest := ih h.2
    simp only [Place.after] at hrest
    omega

end Walk

/-- The operation is a run of equal items, a deletion or an insertion at `p`, in a script that
keeps `total` items. -/
def Simple (old new : Array α) (total : Nat) (p : Place) (op : EditOp) : Prop :=
  match op.tag with
  | .equal => op.oldIndex = p.old ∧ op.newIndex = p.new ∧ op.newCount = op.oldCount ∧
      0 < op.oldCount ∧ Alike old new p.old p.new op.oldCount
  | .delete => op.oldIndex = p.old ∧ op.newCount = 0 ∧ op.newIndex ≤ p.kept + (new.size - total)
  | .insert => op.newIndex = p.new ∧ op.oldCount = 0 ∧ op.oldIndex ≤ p.kept + (old.size - total)
  | .replace => False

theorem walk_equalRun {total count : Nat} {p : Place} (h : Alike old new p.old p.new count) :
    Walk (Simple old new total) p (equalRun p.old p.new count) (p.skip count) := by
  unfold equalRun
  split
  · rename_i hzero
    rw [hzero]
    exact p.skip_zero.symm
  · rename_i hcount
    exact ⟨⟨rfl, rfl, rfl, Nat.pos_of_ne_zero hcount, h⟩, rfl⟩

/-- The operations lead across a window and keep some of its items, wherever the window stands in
a script that keeps enough. -/
def Crosses (old new : Array α) (w : Window) (ops : List EditOp) : Prop :=
  ∃ c, c ≤ w.n ∧ c ≤ w.m ∧ ∀ k total, w.i + w.n + total ≤ k + c + old.size →
    w.j + w.m + total ≤ k + c + new.size →
      Walk (Simple old new total) ⟨w.i, w.j, k⟩ ops ⟨w.i + w.n, w.j + w.m, k + c⟩

theorem crosses_nil (i j : Nat) : Crosses old new ⟨i, 0, j, 0⟩ [] :=
  ⟨0, Nat.le_refl 0, Nat.le_refl 0, fun _ _ _ _ => rfl⟩

theorem crosses_delete {i n j x : Nat} (hx : x ≤ j) :
    Crosses old new ⟨i, n, j, 0⟩ [.delete i n x] := by
  refine ⟨0, Nat.zero_le n, Nat.le_refl 0, fun k total _ hnew => ⟨⟨rfl, rfl, ?_⟩, rfl⟩⟩
  simp only [EditOp.delete] at hnew ⊢
  omega

theorem crosses_insert {i j m x : Nat} (hx : x ≤ i) :
    Crosses old new ⟨i, 0, j, m⟩ [.insert x j m] := by
  refine ⟨0, Nat.le_refl 0, Nat.zero_le m, fun k total hold _ => ⟨⟨rfl, rfl, ?_⟩, rfl⟩⟩
  simp only [EditOp.insert] at hold ⊢
  omega

theorem crosses_equalRun {i j count : Nat} (h : Alike old new i j count) :
    Crosses old new ⟨i, count, j, count⟩ (equalRun i j count) :=
  ⟨count, Nat.le_refl count, Nat.le_refl count, fun _ _ _ _ => walk_equalRun h⟩

theorem Crosses.append {i n j m x y : Nat} {front back : List EditOp}
    (hfront : Crosses old new ⟨i, x, j, y⟩ front)
    (hback : Crosses old new ⟨i + x, n, j + y, m⟩ back) :
    Crosses old new ⟨i, x + n, j, y + m⟩ (front ++ back) := by
  obtain ⟨c, hcx, hcy, hfront⟩ := hfront
  obtain ⟨d, hdn, hdm, hback⟩ := hback
  simp only at hcx hcy hfront hdn hdm hback
  refine ⟨c + d, Nat.add_le_add hcx hdn, Nat.add_le_add hcy hdm, fun k total hold hnew => ?_⟩
  simp only at hold hnew ⊢
  have hsecond := hback (k + c) total (by omega) (by omega)
  rw [Nat.add_assoc, Nat.add_assoc, Nat.add_assoc k] at hsecond
  exact walk_append.mpr ⟨_, hfront k total (by omega) (by omega), hsecond⟩

theorem between_crosses [DecidableEq α] (old new : Array α) (w : Window) :
    Crosses old new w (between old new w) := by
  fun_induction between old new w with
  | case1 w front back v middle ihFront ihBack =>
    have hfront : front ≤ min w.n w.m := commonFront_le old new w.i w.j _
    have hback : back ≤ min (w.n - front) (w.m - front) := commonBack_le old new _ _ _
    have hmiddle : Crosses old new v middle := by
      clear_value v
      obtain ⟨i, n, j, m⟩ := v
      simp only [middle]
      split
      · rename_i hm
        subst hm
        split
        · rename_i hn
          subst hn
          exact crosses_nil i j
        · exact crosses_delete (Nat.le_refl j)
      · split
        · rename_i hn
          subst hn
          exact crosses_insert (Nat.le_refl i)
        · split
          · have hdelete : Crosses old new ⟨i, n, j, 0⟩ [.delete i n j] :=
              crosses_delete (Nat.le_refl j)
            have hinsert : Crosses old new ⟨i + n, 0, j, m⟩ [.insert i j m] :=
              crosses_insert (Nat.le_add_right i n)
            have hboth := hdelete.append hinsert
            rwa [Nat.add_zero, Nat.zero_add] at hboth
          · rename_i x y hsplit
            obtain ⟨hx, hy, -, -⟩ := split?_inside hsplit
            have hboth := (ihFront x y hsplit).append (ihBack x y hsplit)
            rwa [Nat.add_sub_cancel' hx, Nat.add_sub_cancel' hy] at hboth
    have hn : front + v.n + back = w.n := by
      simp only [v]
      omega
    have hm : front + v.m + back = w.m := by
      simp only [v]
      omega
    have hbackRun : Crosses old new ⟨w.i + (front + v.n), back, w.j + (front + v.m), back⟩
        (equalRun (v.i + v.n) (v.j + v.m) back) := by
      obtain ⟨-, -, halike⟩ := alike_commonBack old new (w.i + w.n) (w.j + w.m)
        (min (w.n - front) (w.m - front))
      have hi : w.i + w.n - back = w.i + (front + v.n) := by omega
      have hj : w.j + w.m - back = w.j + (front + v.m) := by omega
      have hvi : v.i + v.n = w.i + (front + v.n) := Nat.add_assoc _ _ _
      have hvj : v.j + v.m = w.j + (front + v.m) := Nat.add_assoc _ _ _
      rw [hvi, hvj]
      refine crosses_equalRun ?_
      rw [← hi, ← hj]
      exact halike
    have hfrontRun := crosses_equalRun (alike_commonFront old new w.i w.j (min w.n w.m))
    have hall := (hfrontRun.append hmiddle).append hbackRun
    rwa [hn, hm] at hall

theorem shortest_walks [DecidableEq α] (old new : Array α) :
    ∃ c, c ≤ old.size ∧ c ≤ new.size ∧
      Walk (Simple old new c) ⟨0, 0, 0⟩ (shortest old new) ⟨old.size, new.size, c⟩ := by
  obtain ⟨c, hold, hnew, hwalk⟩ := between_crosses old new ⟨0, old.size, 0, new.size⟩
  have hall := hwalk 0 c (by simp only; omega) (by simp only; omega)
  simp only [Nat.zero_add] at hall
  exact ⟨c, hold, hnew, hall⟩

end DiffBudget.EditScript
