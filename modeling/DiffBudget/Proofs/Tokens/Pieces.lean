import DiffBudget.Proofs.Regex.Picks
import DiffBudget.Proofs.Regex.Preference
import DiffBudget.Proofs.Tokens.Pattern
import DiffBudget.Tokens.Estimate

/-!
# Every character is charged

The pieces of a text are what their pattern picks in it, one stretch after another: at every place
the first kind that fits has the length that the cut takes, and some kind fits every character. So
no character is passed over. A piece costs one token at least, and no more than it has characters,
and so does the text.
-/
namespace DiffBudget

namespace Piece

open Regex

variable {t : Text} {i : Nat} {d : Char}

theorem CharClass.has_set (k : CharClass) (c : Char) : k.set.has c = k.has c := by
  cases k <;> rfl

theorem CharClass.leading_set (k : CharClass) (t : Text) :
    k.set.leading t = (t.takeWhile k.has).length := by
  have hsame : k.set.has = k.has := funext k.has_set
  rw [DiffBudget.CharClass.leading, hsame]

theorem pick?_run (k : CharClass) (t : Text) (i : Nat) :
    pick? t.toArray (run k) i = past i (runLength k (t.drop i)) := by
  rw [run, pick?_repeated _ (by split <;> simp), CharClass.leading_set, runLength, CharClass.most]
  split <;> rfl

theorem spacedLength_of_ne (h : ' ' ≠ d) (k : CharClass) (rest : Text) :
    spacedLength k (d :: rest) = runLength k (d :: rest) := by
  unfold spacedLength
  split
  · rename_i hspace
    exact absurd (List.cons.inj hspace).1.symm h
  · rfl

theorem contractionLength_of_ne (h : '\'' ≠ d) (rest : Text) :
    contractionLength (d :: rest) = 0 := by
  unfold contractionLength
  split
  · rename_i hquote
    exact absurd (List.cons.inj hquote).1.symm h
  · rfl

theorem pick?_spaced_run (k : CharClass) (t : Text) (i : Nat) :
    pick? t.toArray (spaced (run k)) i = past i (spacedLength k (t.drop i)) := by
  rw [spaced, pick?_seq_optional]
  cases hdrop : t.drop i with
  | nil =>
    rw [choices_one_of_nil _ hdrop, pick?_run, hdrop]
    rfl
  | cons d rest =>
    rw [choices_one_of_cons _ hdrop]
    by_cases hspace : ' ' = d
    · subst hspace
      have hbehind := pick?_run k t (i + 1)
      rw [drop_succ_of_drop hdrop] at hbehind
      rw [if_pos rfl, List.findSome?_singleton, hbehind, pick?_run, hdrop, spacedLength]
      cases runLength k rest with
      | zero => rfl
      | succ n =>
        rw [past_succ, past_succ, Option.some_or]
        exact congrArg some (by omega)
    · rw [if_neg hspace, spacedLength_of_ne hspace, pick?_run, hdrop]
      rfl

theorem pick?_contraction (t : Text) (i : Nat) :
    pick? t.toArray contraction i = past i (contractionLength (t.drop i)) := by
  rw [contraction, pick?_seq]
  cases hdrop : t.drop i with
  | nil =>
    rw [choices_one_of_nil _ hdrop]
    rfl
  | cons d rest =>
    rw [choices_one_of_cons _ hdrop]
    by_cases hquote : '\'' = d
    · subst hquote
      have hsome : contractions ≠ [] := List.cons_ne_nil _ _
      have hwords := pick?_words hsome t (i + 1)
      rw [drop_succ_of_drop hdrop] at hwords
      rw [if_pos rfl, List.findSome?_singleton, hwords, contractionLength]
      cases contractions.find? (·.isPrefixOf rest) <;> simp
    · rw [if_neg hquote, contractionLength_of_ne hquote]
      rfl

theorem findSome?_past (i : Nat) (ns : List Nat) :
    ns.findSome? (past i) = past i ((ns.find? (0 < ·)).getD 0) := by
  induction ns with
  | nil => rfl
  | cons n ns ih =>
    cases n with
    | zero => exact ih
    | succ n => simp

theorem pick?_pattern (t : Text) (i : Nat) :
    pick? t.toArray pattern i = past i (frontLength (t.drop i)) := by
  rw [pattern, pick?_anyOf _ _ (by simp), frontLength, ← findSome?_past]
  simp only [lengths, List.findSome?_cons, List.findSome?_nil, pick?_contraction,
    pick?_spaced_run, pick?_run]

theorem all_of_ne_nil (h : t ≠ []) :
    all t = t.take (frontLength t) :: all (t.drop (frontLength t)) := by
  rw [all, if_neg h]

theorem pick?_pattern_of_ne_nil (h : t.drop i ≠ []) :
    pick? t.toArray pattern i = some (i + frontLength (t.drop i)) ∧
      0 < frontLength (t.drop i) := by
  have hpos := frontLength_pos h
  exact ⟨(pick?_pattern t i).trans (if_neg (Nat.ne_of_gt hpos)), hpos⟩

theorem exists_end_of_lt (h : i < t.length) : ∃ j ∈ pattern.ends t.toArray i, i < j := by
  obtain ⟨hpick, hpos⟩ :=
    pick?_pattern_of_ne_nil (mt List.drop_eq_nil_iff.mp (Nat.not_le.mpr h))
  exact ⟨_, mem_ends_of_pick? hpick, Nat.lt_add_of_pos_right hpos⟩

theorem picksFrom_pattern (t : Text) (i : Nat) :
    picksFrom t.toArray pattern i = all (t.drop i) := by
  have hrest {i : Nat} (hi : i < t.toArray.size) : t.drop i ≠ [] :=
    mt List.drop_eq_nil_iff.mp (Nat.not_le.mpr hi)
  fun_induction picksFrom t.toArray pattern i with
  | case1 i hi hnone ih =>
    rw [(pick?_pattern_of_ne_nil (hrest hi)).1] at hnone
    cases hnone
  | case2 i hi j hj hlt ih =>
    rw [(pick?_pattern_of_ne_nil (hrest hi)).1] at hj
    cases hj
    have hstretch : (t.toArray.extract i (i + frontLength (t.drop i))).toList =
        (t.drop i).take (frontLength (t.drop i)) := by
      rw [Array.toList_extract, List.extract_eq_take_drop, Nat.add_sub_cancel_left]
    rw [ih, all_of_ne_nil (hrest hi), hstretch, List.drop_drop]
  | case3 i hi j hj hle ih =>
    obtain ⟨hsome, hpos⟩ := pick?_pattern_of_ne_nil (hrest hi)
    rw [hsome] at hj
    cases hj
    omega
  | case4 i hi =>
    have hend : t.drop i = [] := List.drop_eq_nil_iff.mpr (Nat.not_lt.mp hi)
    rw [hend, all, if_pos rfl]

theorem picks_pattern (t : Text) : pattern.picks t = all t := picksFrom_pattern t 0

theorem ne_nil_of_mem_all {piece : Text} (h : piece ∈ all t) : piece ≠ [] := by
  fun_induction all t with
  | case1 => cases h
  | case2 t hne ih =>
    rcases List.mem_cons.mp h with rfl | h
    · rw [Ne, List.take_eq_nil_iff, not_or]
      exact ⟨Nat.ne_of_gt (frontLength_pos hne), hne⟩
    · exact ih h

end Piece

theorem sumOf_le_length_flatten {α : Type} {f : List α → Nat} {parts : List (List α)}
    (h : ∀ part ∈ parts, f part ≤ part.length) : sumOf f parts ≤ parts.flatten.length := by
  induction parts with
  | nil => exact Nat.le_refl 0
  | cons part parts ih =>
    rw [sumOf_cons, List.flatten_cons, List.length_append]
    exact Nat.add_le_add (h part List.mem_cons_self)
      (ih fun other hother => h other (List.mem_cons_of_mem part hother))

namespace TokenProfile

variable (p : TokenProfile)

theorem groupsOf_bounds {size n : Nat} (hsize : 0 < size) (hn : 0 < n) :
    1 ≤ groupsOf size n ∧ groupsOf size n ≤ n := by
  have hgroups : groupsOf size n = (n - 1) / size + 1 := by
    rw [groupsOf, ← Nat.add_div_right _ hsize]
    congr 1
    omega
  have hle : (n - 1) / size ≤ n - 1 := Nat.div_le_self _ _
  rw [hgroups]
  exact ⟨Nat.le_add_left 1 _, by omega⟩

theorem length_bodyOf_le (piece : Text) : (bodyOf piece).length ≤ piece.length := by
  unfold bodyOf
  split
  · exact Nat.le_succ _
  · exact Nat.le_refl _

theorem pieceCost_bounds (hword : 0 < p.wordChars) (hsymbol : 0 < p.symbolChars) {piece : Text}
    (h : piece ≠ []) : 1 ≤ p.pieceCost piece ∧ p.pieceCost piece ≤ piece.length := by
  have hpiece : 1 ≤ piece.length := List.length_pos_iff.mpr h
  have hlength := length_bodyOf_le piece
  unfold pieceCost
  dsimp only
  cases hbody : bodyOf piece with
  | nil => exact ⟨Nat.le_refl 1, hpiece⟩
  | cons c rest =>
    rw [hbody] at hlength
    have hgroups {size : Nat} (hsize : 0 < size) :
        1 ≤ groupsOf size (c :: rest).length ∧ groupsOf size (c :: rest).length ≤ piece.length :=
      have hbounds := groupsOf_bounds hsize (List.length_pos_iff.mpr (List.cons_ne_nil c rest))
      ⟨hbounds.1, Nat.le_trans hbounds.2 hlength⟩
    dsimp only
    split_ifs
    · have hcount : (c :: rest).count '\n' ≤ (c :: rest).length := List.count_le_length
      exact ⟨Nat.le_max_right _ _, Nat.max_le.mpr ⟨Nat.le_trans hcount hlength, hpiece⟩⟩
    · exact hgroups hword
    · exact ⟨Nat.le_refl 1, hpiece⟩
    · exact hgroups hsymbol

theorem estimate_eq_zero_iff (hword : 0 < p.wordChars) (hsymbol : 0 < p.symbolChars) (t : Text) :
    p.estimate t = 0 ↔ t = [] := by
  constructor
  · intro hzero
    by_contra hne
    have hfirst := Piece.all_of_ne_nil hne
    have hmem : t.take (Piece.frontLength t) ∈ Piece.all t := by
      rw [hfirst]
      exact List.mem_cons_self
    have hcost := (p.pieceCost_bounds hword hsymbol (Piece.ne_nil_of_mem_all hmem)).1
    rw [estimate, hfirst, sumOf_cons] at hzero
    omega
  · rintro rfl
    exact p.estimate_nil

/-- At every place of a text a stretch of the pattern begins, what the pattern picks is the whole
text, and every piece is charged, at most with one token for each of its characters. -/
theorem every_character_charged (hword : 0 < p.wordChars) (hsymbol : 0 < p.symbolChars) :
    Regex.parse Piece.patternText = .ok Piece.pattern ∧ ∀ t : Text,
      (∀ i < t.length, ∃ j ∈ Piece.pattern.ends t.toArray i, i < j) ∧
      (Piece.pattern.picks t).flatten = t ∧
      (∀ piece ∈ Piece.pattern.picks t,
        1 ≤ p.pieceCost piece ∧ p.pieceCost piece ≤ piece.length) ∧
      p.estimate t = sumOf p.pieceCost (Piece.pattern.picks t) ∧
      (p.estimate t = 0 ↔ t = []) ∧ p.estimate t ≤ t.length := by
  refine ⟨Regex.parse_patternText, fun t => ?_⟩
  have hflatten := Piece.all_flatten t
  have hcosts : ∀ piece ∈ Piece.all t,
      1 ≤ p.pieceCost piece ∧ p.pieceCost piece ≤ piece.length := fun piece h =>
    p.pieceCost_bounds hword hsymbol (Piece.ne_nil_of_mem_all h)
  have hle : p.estimate t ≤ (Piece.all t).flatten.length :=
    sumOf_le_length_flatten fun piece h => (hcosts piece h).2
  rw [hflatten] at hle
  rw [Piece.picks_pattern]
  exact ⟨fun _ => Piece.exists_end_of_lt, hflatten, hcosts, rfl,
    p.estimate_eq_zero_iff hword hsymbol t, hle⟩

theorem every_character_charged_for_claude :
    0 < claude.wordChars ∧ 0 < claude.symbolChars ∧
      (Piece.pattern.picks "it's 42!".toList).flatten = "it's 42!".toList ∧
      claude.estimate "it's 42!".toList ≠ 0 ∧ claude.estimate "it's 42!".toList ≤ 8 := by
  have hword : 0 < claude.wordChars := by decide
  have hsymbol : 0 < claude.symbolChars := by decide
  obtain ⟨-, hflatten, -, -, hzero, hle⟩ :=
    (every_character_charged claude hword hsymbol).2 "it's 42!".toList
  have hlength : "it's 42!".toList.length = 8 := by decide
  rw [hlength] at hle
  exact ⟨hword, hsymbol, hflatten, fun h => absurd (hzero.mp h) (by decide), hle⟩

end TokenProfile
end DiffBudget
