import DiffBudget.Text.Table

/-!
# Looking names up in a table

A name has the value that was set for it last, and what is erased leaves the other names alone.
A table is made up of its own entries.
-/
namespace DiffBudget.TextTable

variable {α : Type}

theorem find?_setEntry (name : Text) (value : α) (es : List (Text × α)) :
    (setEntry name value es).find? (·.1 == name) = some (name, value) := by
  induction es with
  | nil => simp [setEntry]
  | cons e es ih =>
    simp only [setEntry]
    split
    case isTrue hlt =>
      have hne : e.1 ≠ name := fun heq => Std.lt_irrefl (heq ▸ hlt)
      rw [List.find?_cons_of_neg (by simpa using hne), ih]
    case isFalse => split <;> simp

theorem find?_setEntry_of_ne {name other : Text} (h : name ≠ other) (value : α)
    (es : List (Text × α)) :
    (setEntry name value es).find? (·.1 == other) = es.find? (·.1 == other) := by
  induction es with
  | nil => simp [setEntry, h]
  | cons e es ih =>
    simp only [setEntry]
    split
    case isTrue => simp only [List.find?_cons, ih]
    case isFalse =>
      split
      case isTrue heq =>
        have hne : e.1 ≠ other := heq ▸ h
        rw [List.find?_cons_of_neg (by simpa using h), List.find?_cons_of_neg (by simpa using hne)]
      case isFalse => rw [List.find?_cons_of_neg (by simpa using h)]

@[simp] theorem find?_empty (name : Text) : (empty : TextTable α).find? name = none := rfl

theorem find?_set (t : TextTable α) (name other : Text) (value : α) :
    (t.set name value).find? other = if name = other then some value else t.find? other := by
  by_cases h : name = other
  · subst h
    rw [if_pos rfl, find?, set, find?_setEntry, Option.map_some]
  · rw [if_neg h, find?, set, find?_setEntry_of_ne h, find?]

theorem find?_foldl_set (es : List (Text × α)) (t : TextTable α) (name : Text) :
    (es.foldl (fun t e => t.set e.1 e.2) t).find? name =
      ((es.reverse.find? (·.1 == name)).map (·.2)).or (t.find? name) := by
  induction es generalizing t with
  | nil => rfl
  | cons e es ih =>
    rw [List.foldl_cons, ih, find?_set, List.reverse_cons, List.find?_append, Option.map_or,
      Option.or_assoc]
    by_cases h : e.1 = name <;> simp [h]

theorem find?_ofList (es : List (Text × α)) (name : Text) :
    (ofList es).find? name = (es.reverse.find? (·.1 == name)).map (·.2) := by
  rw [ofList, find?_foldl_set, find?_empty, Option.or_none]

theorem find?_erase_of_ne (t : TextTable α) {name other : Text} (h : name ≠ other) :
    (t.erase name).find? other = t.find? other := by
  rw [find?, erase, filter, List.find?_filter, find?]
  congr 2
  funext e
  by_cases he : e.1 = other
  · simp [he, Ne.symm h]
  · simp [he]

/-! ## Tables of their own entries -/

theorem setEntry_of_last {name : Text} {es : List (Text × α)} (h : ∀ e ∈ es, e.1 < name)
    (value : α) : setEntry name value es = es ++ [(name, value)] := by
  induction es with
  | nil => rfl
  | cons e es ih =>
    rw [setEntry, if_pos (h e List.mem_cons_self),
      ih fun e' he' => h e' (List.mem_cons_of_mem e he')]
    rfl

theorem ext_entries {s t : TextTable α} (h : s.entries = t.entries) : s = t := by
  cases s
  cases t
  cases h
  rfl

theorem entries_foldl_set (es : List (Text × α)) (t : TextTable α)
    (h : (t.entries ++ es).Pairwise (·.1 < ·.1)) :
    (es.foldl (fun t e => t.set e.1 e.2) t).entries = t.entries ++ es := by
  induction es generalizing t with
  | nil => simp
  | cons e es ih =>
    have hlast : ∀ e' ∈ t.entries, e'.1 < e.1 := fun e' he' =>
      (List.pairwise_append.mp h).2.2 e' he' e List.mem_cons_self
    have hset : (t.set e.1 e.2).entries = t.entries ++ [e] := setEntry_of_last hlast e.2
    rw [List.foldl_cons, ih, hset, List.append_assoc]
    · rfl
    · rw [hset, List.append_assoc]
      exact h

theorem ofList_entries (t : TextTable α) : ofList t.entries = t :=
  ext_entries (entries_foldl_set t.entries empty t.sorted)

end DiffBudget.TextTable
