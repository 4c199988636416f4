import DiffBudget.Text.Lines

/-!
# Tables by name

A table holds one value for each of its names, in the order of the names. The order of two names
is that of the first characters in which they differ.
-/
namespace DiffBudget

structure TextTable (α : Type) where
  entries : List (Text × α)
  sorted : entries.Pairwise (·.1 < ·.1)
  deriving DecidableEq

namespace TextTable

variable {α β : Type}

def empty : TextTable α := ⟨[], .nil⟩

instance : Inhabited (TextTable α) := ⟨empty⟩

instance [Repr α] : Repr (TextTable α) := ⟨fun t n => reprPrec t.entries n⟩

def setEntry (name : Text) (value : α) : List (Text × α) → List (Text × α)
  | [] => [(name, value)]
  | e :: es =>
    if e.1 < name then e :: setEntry name value es
    else if e.1 = name then (name, value) :: es
    else (name, value) :: e :: es

theorem mem_setEntry {name : Text} {value : α} {es : List (Text × α)} {x : Text × α}
    (h : x ∈ setEntry name value es) : x = (name, value) ∨ x ∈ es := by
  induction es with
  | nil => simpa [setEntry] using h
  | cons e es ih =>
    simp only [setEntry] at h
    split at h
    · rcases List.mem_cons.1 h with h | h
      · exact .inr (List.mem_cons.2 (.inl h))
      · exact (ih h).imp id fun h => List.mem_cons.2 (.inr h)
    · split at h
      · exact (List.mem_cons.1 h).imp id fun h => List.mem_cons.2 (.inr h)
      · exact List.mem_cons.1 h

theorem sorted_setEntry (name : Text) (value : α) {es : List (Text × α)}
    (h : es.Pairwise (·.1 < ·.1)) : (setEntry name value es).Pairwise (·.1 < ·.1) := by
  induction es with
  | nil => simp [setEntry]
  | cons e es ih =>
    obtain ⟨he, hes⟩ := List.pairwise_cons.1 h
    simp only [setEntry]
    split
    case isTrue hlt =>
      refine List.pairwise_cons.2 ⟨fun x hx => ?_, ih hes⟩
      rcases mem_setEntry hx with rfl | hx
      · exact hlt
      · exact he x hx
    case isFalse hlt =>
      split
      case isTrue heq => exact List.pairwise_cons.2 ⟨fun x hx => heq ▸ he x hx, hes⟩
      case isFalse hne =>
        have hgt : name < e.1 := by
          rcases Std.lt_trichotomy e.1 name with hc | hc | hc
          · exact absurd hc hlt
          · exact absurd hc hne
          · exact hc
        refine List.pairwise_cons.2 ⟨fun x hx => ?_, h⟩
        rcases List.mem_cons.1 hx with rfl | hx
        · exact hgt
        · exact Std.lt_trans hgt (he x hx)

def set (t : TextTable α) (name : Text) (value : α) : TextTable α :=
  ⟨setEntry name value t.entries, sorted_setEntry name value t.sorted⟩

/-- The table of a list, in which a later entry for a name takes the place of an earlier one. -/
def ofList (es : List (Text × α)) : TextTable α := es.foldl (fun t e => t.set e.1 e.2) empty

def find? (t : TextTable α) (name : Text) : Option α :=
  (t.entries.find? (·.1 == name)).map (·.2)

def contains (t : TextTable α) (name : Text) : Bool := t.entries.any (·.1 == name)

def names (t : TextTable α) : List Text := t.entries.map (·.1)

def filter (keep : Text → α → Bool) (t : TextTable α) : TextTable α :=
  ⟨t.entries.filter fun e => keep e.1 e.2, t.sorted.filter _⟩

def erase (t : TextTable α) (name : Text) : TextTable α := t.filter fun n _ => n != name

end TextTable
end DiffBudget
