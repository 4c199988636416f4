import DiffBudget.Regex.Preference
import DiffBudget.Tokens.Pattern

/-!
# Picks of simple expressions

What an expression picks at a place is told by the text behind the place: a branch that picks
something hides the later ones, a repeated class takes as many characters as it may, and a word is
there or not.
-/
namespace DiffBudget

def CharClass.leading (k : CharClass) (t : Text) : Nat := (t.takeWhile k.has).length

@[simp] theorem CharClass.leading_nil (k : CharClass) : k.leading [] = 0 := rfl

theorem CharClass.leading_cons (k : CharClass) (c : Char) (t : Text) :
    k.leading (c :: t) = if k.has c then k.leading t + 1 else 0 := by
  rw [leading, List.takeWhile_cons]
  split <;> rfl

namespace Regex

def past (i n : Nat) : Option Nat := if n = 0 then none else some (i + n)

@[simp] theorem past_zero (i : Nat) : past i 0 = none := rfl

@[simp] theorem past_succ (i n : Nat) : past i (n + 1) = some (i + 1 + n) := by
  rw [past, if_neg (Nat.succ_ne_zero n), Nat.add_assoc, Nat.add_comm 1]

variable {t rest : Text} {i : Nat} {d : Char}

section Branches

variable (text : Array Char) (a b : Regex) (i : Nat)

theorem pick?_alt : pick? text (alt a b) i = (pick? text a i).or (pick? text b i) :=
  List.head?_append

theorem pick?_seq :
    pick? text (seq a b) i = (choices text a i).findSome? (pick? text b) :=
  List.head?_flatMap

theorem pick?_foldl_alt (es : List Regex) :
    pick? text (es.foldl alt a) i =
      (pick? text a i).or (es.findSome? fun e => pick? text e i) := by
  induction es generalizing a with
  | nil => simp
  | cons e es ih =>
    rw [List.foldl_cons, ih, pick?_alt, Option.or_assoc, List.findSome?_cons]
    cases pick? text e i <;> rfl

theorem pick?_anyOf {es : List Regex} (h : es ≠ []) :
    pick? text (anyOf es) i = es.findSome? fun e => pick? text e i := by
  obtain ⟨e, es, rfl⟩ := List.exists_cons_of_ne_nil h
  rw [anyOf, pick?_foldl_alt, List.findSome?_cons]
  cases pick? text e i <;> rfl

theorem pick?_times (least : Nat) (most : Option Nat) :
    pick? text (times a least most) i =
      ((inTurn (choices text a) least i).flatMap
        (asOften (choices text a) (most.elim (text.size + 1) (· - least)))).head? := by
  cases most <;> rfl

theorem choices_optional : choices text (optional a) i = choices text a i ++ [i] := by
  have hone : ∀ j, (if j = i then [i] else [j]) = [j] := by
    intro j
    split
    · rename_i h
      rw [h]
    · rfl
  simp [choices, optional, inTurn, asOften, hone]

theorem pick?_seq_optional :
    pick? text (seq (optional a) b) i =
      ((choices text a i).findSome? (pick? text b)).or (pick? text b i) := by
  rw [pick?_seq, choices_optional, List.findSome?_append]
  simp

end Branches

/-! ## Characters -/

theorem getElem?_of_drop (h : t.drop i = d :: rest) : t[i]? = some d := by
  rw [← List.head?_drop, h, List.head?_cons]

theorem drop_succ_of_drop (h : t.drop i = d :: rest) : t.drop (i + 1) = rest := by
  rw [← List.tail_drop, h, List.tail_cons]

section Classes

variable (k : CharClass)

theorem choices_char_of_nil (h : t.drop i = []) : choices t.toArray (char k) i = [] := by
  have hnone : t[i]? = none := by
    rw [← List.head?_drop, h, List.head?_nil]
  simp [choices, hnone]

theorem choices_char_of_cons (h : t.drop i = d :: rest) :
    choices t.toArray (char k) i = if k.has d then [i + 1] else [] := by
  simp [choices, getElem?_of_drop h]

theorem head?_asOften_char (n : Nat) (t : Text) (i : Nat) :
    (asOften (choices t.toArray (char k)) n i).head? =
      some (i + min n (k.leading (t.drop i))) := by
  -- the first choice goes on as long as it may; the shorter ones come behind it
  induction n generalizing i with
  | zero => simp [asOften]
  | succ n ih =>
    cases hdrop : t.drop i with
    | nil => simp [asOften, choices_char_of_nil k hdrop]
    | cons d rest =>
      rw [asOften, choices_char_of_cons k hdrop, CharClass.leading_cons]
      by_cases hd : k.has d
      · have hnext := ih (i + 1)
        rw [drop_succ_of_drop hdrop] at hnext
        rw [if_pos hd, if_pos hd, List.flatMap_singleton, if_neg (Nat.succ_ne_self i),
          List.head?_append, hnext, Option.some_or, Nat.add_min_add_right]
        exact congrArg some (by omega)
      · rw [if_neg hd, if_neg hd, Nat.min_zero]
        rfl

theorem leading_drop_le (t : Text) (i : Nat) : k.leading (t.drop i) ≤ t.length :=
  Nat.le_trans (List.takeWhile_sublist _).length_le (by simp)

/-- A class that is repeated takes all characters that stand there, up to the bound. -/
theorem pick?_repeated {most : Option Nat} (hmost : most ≠ some 0) (t : Text) (i : Nat) :
    pick? t.toArray (times (char k) 1 most) i =
      past i (most.elim (k.leading (t.drop i)) (min · (k.leading (t.drop i)))) := by
  have hfirst : inTurn (choices t.toArray (char k)) 1 i = choices t.toArray (char k) i :=
    List.flatMap_singleton' _
  rw [pick?_times, hfirst]
  cases hdrop : t.drop i with
  | nil =>
    rw [choices_char_of_nil k hdrop]
    cases most <;> simp
  | cons d rest =>
    rw [choices_char_of_cons k hdrop, CharClass.leading_cons]
    by_cases hd : k.has d
    · have hle := leading_drop_le k t (i + 1)
      have hnext := fun n => head?_asOften_char k n t (i + 1)
      rw [drop_succ_of_drop hdrop] at hle hnext
      -- one character has been taken, and the text has room for all the others
      have hmost : most.elim (k.leading rest + 1) (min · (k.leading rest + 1)) =
          min (most.elim (t.length + 1) (· - 1)) (k.leading rest) + 1 := by
        cases most with
        | none =>
          simp only [Option.elim_none]
          omega
        | some m =>
          have hm : m ≠ 0 := fun h => hmost (congrArg some h)
          simp only [Option.elim_some]
          omega
      rw [if_pos hd, if_pos hd, hmost, past_succ, List.flatMap_singleton, hnext]
      rfl
    · rw [if_neg hd, if_neg hd]
      cases most <;> simp

end Classes

section Words

theorem choices_one_of_nil (c : Char) (h : t.drop i = []) : choices t.toArray (one c) i = [] :=
  choices_char_of_nil _ h

theorem choices_one_of_cons (c : Char) (h : t.drop i = d :: rest) :
    choices t.toArray (one c) i = if c = d then [i + 1] else [] := by
  rw [one, choices_char_of_cons _ h]
  have hsame : (CharClass.single c).has d = true ↔ c = d := by
    simp only [CharClass.single, CharClass.has, Bool.and_eq_true, decide_eq_true_eq]
    exact ⟨fun h => Char.le_antisymm h.1 h.2, fun h => h ▸ ⟨Char.le_refl _, Char.le_refl _⟩⟩
  simp only [hsame]

def wordEnd (w t : Text) (i : Nat) : List Nat :=
  if w.isPrefixOf (t.drop i) then [i + w.length] else []

theorem flatMap_choices_one (c : Char) (w t : Text) (i : Nat) :
    (choices t.toArray (one c) i).flatMap (wordEnd w t) = wordEnd (c :: w) t i := by
  cases hdrop : t.drop i with
  | nil => simp [choices_one_of_nil c hdrop, wordEnd, hdrop]
  | cons d rest =>
    rw [choices_one_of_cons c hdrop]
    by_cases hc : c = d
    · simp [hc, wordEnd, hdrop, drop_succ_of_drop hdrop, Nat.add_comm 1, Nat.add_assoc]
    · simp [hc, wordEnd, hdrop]

theorem choices_foldl_one (e : Regex) (w t : Text) (i : Nat) :
    choices t.toArray (w.foldl (fun e d => .seq e (one d)) e) i =
      (choices t.toArray e i).flatMap (wordEnd w t) := by
  -- each character moves over to the expression in front
  induction w generalizing e with
  | nil =>
    have hempty : wordEnd [] t = fun j => [j] := by
      funext j
      simp [wordEnd]
    rw [hempty, List.flatMap_singleton', List.foldl_nil]
  | cons d w ih =>
    rw [List.foldl_cons, ih, choices, List.flatMap_assoc]
    simp only [flatMap_choices_one]

theorem choices_word (w t : Text) (i : Nat) : choices t.toArray (word w) i = wordEnd w t i := by
  cases w with
  | nil => simp [word, choices, wordEnd]
  | cons c w => rw [word, choices_foldl_one, flatMap_choices_one]

theorem pick?_words {ws : List Text} (h : ws ≠ []) (t : Text) (i : Nat) :
    pick? t.toArray (anyOf (ws.map word)) i =
      (ws.find? (·.isPrefixOf (t.drop i))).map (i + ·.length) := by
  have hfirst : ∀ ws : List Text, ws.findSome? (fun w => (wordEnd w t i).head?) =
      (ws.find? (·.isPrefixOf (t.drop i))).map (i + ·.length) := by
    intro ws
    induction ws with
    | nil => rfl
    | cons w ws ih =>
      rw [List.findSome?_cons, ih, wordEnd]
      cases hw : w.isPrefixOf (t.drop i) <;> simp [hw]
  rw [pick?_anyOf _ _ (by simpa using h), List.findSome?_map, ← hfirst]
  simp only [pick?, Function.comp_def, choices_word]

end Words

end Regex
end DiffBudget
