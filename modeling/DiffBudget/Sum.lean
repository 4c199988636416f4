/-!
# Sums over lists

The sum of a measure over the items of a list.
-/
namespace DiffBudget

variable {α : Type}

def sumOf (f : α → Nat) (as : List α) : Nat := as.foldl (fun n a => n + f a) 0

theorem foldl_measure (f : α → Nat) (as : List α) (n : Nat) :
    as.foldl (fun n a => n + f a) n = n + sumOf f as := by
  induction as generalizing n with
  | nil => simp [sumOf]
  | cons a as ih =>
    rw [sumOf, List.foldl_cons, List.foldl_cons, ih, ih (0 + f a)]
    omega

@[simp] theorem sumOf_nil (f : α → Nat) : sumOf f [] = 0 := rfl

@[simp] theorem sumOf_cons (f : α → Nat) (a : α) (as : List α) :
    sumOf f (a :: as) = f a + sumOf f as := by
  rw [sumOf, List.foldl_cons, foldl_measure]
  omega

@[simp] theorem sumOf_append (f : α → Nat) (as bs : List α) :
    sumOf f (as ++ bs) = sumOf f as + sumOf f bs := by
  rw [sumOf, List.foldl_append, foldl_measure]
  rfl

theorem sumOf_perm (f : α → Nat) {as bs : List α} (h : as.Perm bs) : sumOf f as = sumOf f bs := by
  induction h with
  | nil => rfl
  | cons a _ ih => rw [sumOf_cons, sumOf_cons, ih]
  | swap a b as =>
    simp only [sumOf_cons]
    omega
  | trans _ _ first second => exact first.trans second

end DiffBudget
