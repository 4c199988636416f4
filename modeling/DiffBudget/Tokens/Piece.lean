import DiffBudget.Text.Blank
import DiffBudget.Unicode.Category

/-!
# The pieces of a text

A text is cut into pieces the way byte-pair tokenizers cut it before they merge: an English
contraction, a run of letters, up to three digits, a run of symbols, or a run of white space. The
kinds are tried in this order. All but the first and the last may have one space in front. Every
character falls into a piece.
-/
namespace DiffBudget.Piece

inductive CharClass
  | letter
  | number
  | symbol
  | blank
  deriving DecidableEq, Repr

namespace CharClass

def has : CharClass → Char → Bool
  | letter, c => Unicode.isLetter c
  | number, c => Unicode.isNumber c
  | symbol, c => !(isBlank c || Unicode.isLetter c || Unicode.isNumber c)
  | blank, c => isBlank c

def most (k : CharClass) (length : Nat) : Nat :=
  if k = .number then min 3 length else length

theorem most_eq_zero_iff (k : CharClass) (length : Nat) : k.most length = 0 ↔ length = 0 := by
  unfold most
  split <;> omega

theorem exists_has (c : Char) : letter.has c ∨ number.has c ∨ symbol.has c ∨ blank.has c := by
  cases hletter : Unicode.isLetter c <;> cases hnumber : Unicode.isNumber c <;>
    cases hblank : isBlank c <;> simp [has, hletter, hnumber, hblank]

end CharClass

def contractions : List Text :=
  ["s".toList, "t".toList, "re".toList, "ve".toList, "m".toList, "ll".toList, "d".toList]

def contractionLength : Text → Nat
  | '\'' :: t =>
    match contractions.find? (·.isPrefixOf t) with
    | some tail => tail.length + 1
    | none => 0
  | _ => 0

def runLength (k : CharClass) (t : Text) : Nat := k.most (t.takeWhile k.has).length

def spacedLength (k : CharClass) : Text → Nat
  | ' ' :: t =>
    match runLength k t with
    | 0 => runLength k (' ' :: t)
    | n + 1 => n + 2
  | t => runLength k t

/-- The length that a piece of each kind would have at the front of a text, 0 if there is none. -/
def lengths (t : Text) : List Nat :=
  [contractionLength t, spacedLength .letter t, spacedLength .number t, spacedLength .symbol t,
   runLength .blank t]

def frontLength (t : Text) : Nat := ((lengths t).find? (0 < ·)).getD 0

theorem runLength_pos {k : CharClass} {c : Char} (h : k.has c = true) (t : Text) :
    0 < runLength k (c :: t) := by
  refine Nat.pos_of_ne_zero fun hzero => ?_
  rw [runLength, CharClass.most_eq_zero_iff, List.takeWhile_cons_of_pos h] at hzero
  cases hzero

theorem spacedLength_pos {k : CharClass} {t : Text} (h : 0 < runLength k t) :
    0 < spacedLength k t := by
  unfold spacedLength
  split
  · split
    · exact h
    · exact Nat.succ_pos _
  · exact h

theorem frontLength_pos {t : Text} (h : t ≠ []) : 0 < frontLength t := by
  obtain ⟨c, r, rfl⟩ := List.exists_cons_of_ne_nil h
  have hkind : ∃ n ∈ lengths (c :: r), 0 < n := by
    have hspaced {k : CharClass} (hc : k.has c = true) : 0 < spacedLength k (c :: r) :=
      spacedLength_pos (runLength_pos hc r)
    rcases CharClass.exists_has c with hc | hc | hc | hc
    · exact ⟨_, by simp [lengths], hspaced hc⟩
    · exact ⟨_, by simp [lengths], hspaced hc⟩
    · exact ⟨_, by simp [lengths], hspaced hc⟩
    · exact ⟨_, by simp [lengths], runLength_pos hc r⟩
  obtain ⟨n, hn⟩ : ∃ n, (lengths (c :: r)).find? (0 < ·) = some n := by
    obtain ⟨n, hmem, hpos⟩ := hkind
    exact Option.isSome_iff_exists.mp (List.find?_isSome.mpr ⟨n, hmem, decide_eq_true hpos⟩)
  have hpos := List.find?_some hn
  rw [frontLength, hn]
  exact of_decide_eq_true hpos

def all (t : Text) : List Text :=
  if t = [] then []
  else t.take (frontLength t) :: all (t.drop (frontLength t))
termination_by t.length
decreasing_by
  have := frontLength_pos ‹¬t = []›
  have := List.length_pos_iff.2 ‹¬t = []›
  simp only [List.length_drop]
  omega

theorem all_flatten (t : Text) : (all t).flatten = t := by
  fun_induction all t with
  | case1 => rfl
  | case2 t _ ih => rw [List.flatten_cons, ih, List.take_append_drop]

end DiffBudget.Piece
