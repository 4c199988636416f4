import DiffBudget.Hunk.Header
import DiffBudget.Proofs.Text.Lines
import Mathlib.Data.List.Basic

/-!
# Printed ranges are read back

A decimal number is read back when it fits into 64 bits, and so is a range, whether its count is
left out or not. A header as the unified form prints it therefore gives its four numbers, or is
malformed because one of them is too large. A header in full form is read back with its comment.
-/
namespace DiffBudget

namespace Text

theorem isDigit_of_mem_ofNat {n : Nat} {c : Char} (h : c ∈ ofNat n) : isDigit c = true := by
  have hdigit : c.isDigit = true := Nat.isDigit_of_mem_toDigits (by decide) (by decide) h
  exact hdigit

theorem newline_not_mem_ofNat (n : Nat) : '\n' ∉ ofNat n :=
  fun hn => absurd (isDigit_of_mem_ofNat hn) (by decide)

theorem head?_ofNat (n : Nat) (t : Text) : (ofNat n ++ t).head?.any isDigit = true := by
  cases hdigits : ofNat n with
  | nil => exact absurd hdigits Nat.toDigits_ne_nil
  | cons c ds =>
    have hc : c ∈ ofNat n := hdigits ▸ List.mem_cons_self
    simpa using isDigit_of_mem_ofNat hc

theorem valueIn_ofNat (n : Nat) : valueIn 10 decimalDigit (ofNat n) = n := by
  have hread := Nat.ofDigitChars_ten_toDigits (n := n)
  simpa only [Nat.ofDigitChars, valueIn, decimalDigit, ofNat, Nat.mul_comm] using hread

theorem number?_ofNat (n : Nat) :
    number? (ofNat n) = if n ≤ maxNumber then some n else none := by
  have hdigits : (ofNat n).any (! isDigit ·) = false := by
    simpa using fun c hc => isDigit_of_mem_ofNat hc
  have hempty : (ofNat n).isEmpty = false := List.isEmpty_eq_false_iff.mpr Nat.toDigits_ne_nil
  rw [number?, hdigits, hempty, valueIn_ofNat]
  rfl

end Text

namespace Hunk.Header

theorem digits?_ofNat (n : Nat) {t : Text} (ht : ∀ c ∈ t.head?, Text.isDigit c = false) :
    digits? (Text.ofNat n ++ t) = if n ≤ maxNumber then some (n, t) else none := by
  have hrun : ∀ c ∈ Text.ofNat n, Text.isDigit c = true := fun _ => Text.isDigit_of_mem_ofNat
  rw [digits?, takeWhile_run hrun ht, dropWhile_run hrun ht, Text.number?_ofNat]
  split <;> rfl

theorem start_ofNat {n : Nat} (hn : n ≤ maxNumber) {t : Text}
    (ht : ∀ c ∈ t.head?, Text.isDigit c = false) :
    start (Text.ofNat n ++ t) = some (some n, t) := by
  rw [start, if_pos (Text.head?_ofNat n t), digits?_ofNat n ht, if_pos hn]
  rfl

theorem count_ofNat {n : Nat} (hn : n ≤ maxNumber) {t : Text}
    (ht : ∀ c ∈ t.head?, Text.isDigit c = false) :
    count (',' :: (Text.ofNat n ++ t)) = some (some n, t) := by
  rw [count, digits?_ofNat n ht, if_pos hn]
  rfl

structure Fits (h : Header) : Prop where
  oldStart : h.oldStart ≤ maxNumber
  oldCount : h.oldCount ≤ maxNumber
  newStart : h.newStart ≤ maxNumber
  newCount : h.newCount ≤ maxNumber

def tailOf (comment : Text) : Text := if comment.isEmpty then [] else ' ' :: comment

theorem commentOf_tailOf (comment : Text) : commentOf (tailOf comment) = comment := by
  cases comment <;> rfl

theorem isLine_marks_tailOf {comment : Text} (h : comment.IsLine) :
    Text.IsLine (" @@".toList ++ tailOf comment) := by
  have hmarks : Text.IsLine " @@".toList := by decide
  cases comment with
  | nil => exact (List.append_nil " @@".toList).symm ▸ hmarks
  | cons c t =>
    have htail : Text.IsLine (' ' :: c :: t) := h.cons (by decide) (by decide)
    exact htail.append (List.cons_ne_nil _ _) hmarks.1

theorem format_eq (h : Header) :
    h.format = "@@ -".toList ++ Text.ofNat h.oldStart ++ ',' :: Text.ofNat h.oldCount ++
      " +".toList ++ Text.ofNat h.newStart ++ ',' :: Text.ofNat h.newCount ++
        (" @@".toList ++ tailOf h.comment) := by
  delta format
  exact List.append_assoc _ _ _

theorem isLine_format {h : Header} (hcomment : h.comment.IsLine) : h.format.IsLine := by
  have hnumbers : '\n' ∉ "@@ -".toList ++ Text.ofNat h.oldStart ++ ',' :: Text.ofNat h.oldCount ++
      " +".toList ++ Text.ofNat h.newStart ++ ',' :: Text.ofNat h.newCount := by
    simp [Text.newline_not_mem_ofNat]
  rw [format_eq]
  exact (isLine_marks_tailOf hcomment).append (by simp) hnumbers

theorem read?_format {h : Header} (hfits : h.Fits) (hcomment : h.comment.IsLine) :
    read? h.format = some h := by
  -- each part of the header stops in front of a character that is no digit
  have holdStart := fun t => digits?_ofNat h.oldStart (t := ',' :: t) (by rintro c ⟨⟩; decide)
  have holdCount := fun t => count_ofNat hfits.oldCount (t := " +".toList ++ t)
    (by rintro c ⟨⟩; decide)
  have hnewStart := fun t => start_ofNat hfits.newStart (t := ',' :: t) (by rintro c ⟨⟩; decide)
  have hnewCount := fun t => count_ofNat hfits.newCount (t := " @@".toList ++ t)
    (by rintro c ⟨⟩; decide)
  rw [read?, if_neg (isLine_format hcomment).1, format_eq]
  simp only [List.append_assoc, List.cons_append, Text.isPrefixOf?_append, Option.bind_eq_bind,
    Option.bind_some, holdStart, holdCount, hnewStart, hnewCount, if_pos hfits.oldStart,
    Option.getD_some, commentOf_tailOf]
  rfl

def rangeStart (first last : Nat) : Nat := if last - first = 0 then first else first + 1

def countText (first last : Nat) : Text :=
  if last - first = 1 then [] else ',' :: Text.ofNat (last - first)

def RangeFits (first last : Nat) : Prop :=
  rangeStart first last ≤ maxNumber ∧ last - first ≤ maxNumber

instance (first last : Nat) : Decidable (RangeFits first last) :=
  inferInstanceAs (Decidable (_ ∧ _))

theorem rangeText_eq (first last : Nat) :
    EditScript.rangeText first last =
      Text.ofNat (rangeStart first last) ++ countText first last := by
  unfold EditScript.rangeText rangeStart countText
  by_cases hone : last - first = 1
  · simp [hone]
  · simp [hone]

theorem read_rangeText {β : Type} (first last : Nat) {t : Text}
    (next : Nat → Nat → Text → Option β) (ht : ∀ c ∈ t.head?, Text.isDigit c = false)
    (hcomma : t.head? ≠ some ',') :
    ((digits? (EditScript.rangeText first last ++ t)).bind fun s =>
        (count s.2).bind fun c => next s.1 (c.1.getD 1) c.2) =
      if RangeFits first last then next (rangeStart first last) (last - first) t else none := by
  have hhead : ∀ c ∈ (countText first last ++ t).head?, Text.isDigit c = false := by
    unfold countText
    split
    · exact ht
    · rintro c ⟨⟩
      decide
  rw [rangeText_eq, List.append_assoc, digits?_ofNat _ hhead]
  by_cases hstart : rangeStart first last ≤ maxNumber
  · rw [if_pos hstart, Option.bind_some]
    by_cases hone : last - first = 1
    · have hfits : RangeFits first last := ⟨hstart, hone ▸ (by decide)⟩
      have hcount : count t = some (none, t) := by
        unfold count
        split
        · exact absurd rfl hcomma
        · rfl
      rw [if_pos hfits, countText, if_pos hone, List.nil_append, hcount, hone]
      rfl
    · rw [countText, if_neg hone]
      simp only [count, List.cons_append, digits?_ofNat _ ht]
      by_cases hcount : last - first ≤ maxNumber
      · rw [if_pos hcount, if_pos ⟨hstart, hcount⟩]
        rfl
      · rw [if_neg hcount, if_neg fun h : RangeFits _ _ => hcount h.2]
        rfl
  · rw [if_neg hstart, if_neg fun h : RangeFits _ _ => hstart h.1]
    rfl

theorem newline_not_mem_rangeText (first last : Nat) :
    '\n' ∉ EditScript.rangeText first last := by
  rw [rangeText_eq, countText]
  split <;> simp [Text.newline_not_mem_ofNat]

theorem headerText_eq (first last : EditOp) :
    EditScript.headerText first last =
      "@@ -".toList ++ EditScript.rangeText first.oldIndex last.oldEnd ++ " +".toList ++
        EditScript.rangeText first.newIndex last.newEnd ++ " @@".toList := by
  delta EditScript.headerText
  rfl

theorem newline_not_mem_headerText (first last : EditOp) :
    '\n' ∉ EditScript.headerText first last := by
  simp [headerText_eq, newline_not_mem_rangeText]

theorem head?_rangeText (first last : Nat) (t : Text) :
    (EditScript.rangeText first last ++ t).head?.any Text.isDigit = true := by
  rw [rangeText_eq, List.append_assoc]
  exact Text.head?_ofNat _ _

def readNew (oldStart oldCount : Nat) (t : Text) : Option Header := do
  let t ← " +".toList.isPrefixOf? t
  let (newStart, t) ← start t
  let (newCount, t) ← count t
  let t ← " @@".toList.isPrefixOf? t
  return {
    oldStart
    oldCount
    newStart := newStart.getD 0
    newCount := newCount.getD (if newStart.isSome then 1 else 0)
    comment := commentOf t }

theorem readNew_rangeText (oldStart oldCount first last : Nat) :
    readNew oldStart oldCount
        (" +".toList ++ (EditScript.rangeText first last ++ " @@".toList)) =
      if RangeFits first last then
        some ⟨oldStart, oldCount, rangeStart first last, last - first, []⟩
      else none := by
  have hend : " @@".toList.isPrefixOf? " @@".toList = some [] := by decide
  have hrange := read_rangeText first last (t := " @@".toList) (fun s c t =>
    (" @@".toList.isPrefixOf? t).bind fun t =>
      some (⟨oldStart, oldCount, s, c, commentOf t⟩ : Header))
    (by rintro c ⟨⟩; decide) (by decide)
  rw [hend] at hrange
  rw [readNew, Text.isPrefixOf?_append]
  simp only [start, head?_rangeText, if_true, Option.bind_eq_bind, Option.bind_some,
    Option.bind_map, Function.comp_def, Option.getD_some, Option.isSome_some]
  exact hrange

theorem read?_headerText (first last : EditOp) :
    read? (EditScript.headerText first last) =
      if RangeFits first.oldIndex last.oldEnd ∧ RangeFits first.newIndex last.newEnd then
        some {
          oldStart := rangeStart first.oldIndex last.oldEnd
          oldCount := last.oldEnd - first.oldIndex
          newStart := rangeStart first.newIndex last.newEnd
          newCount := last.newEnd - first.newIndex
          comment := [] }
      else none := by
  rw [ite_and, ← readNew_rangeText, read?, if_neg (newline_not_mem_headerText first last)]
  simp only [headerText_eq, List.append_assoc]
  rw [Text.isPrefixOf?_append]
  exact read_rangeText first.oldIndex last.oldEnd readNew (by rintro c ⟨⟩; decide) (by simp)

end Hunk.Header
end DiffBudget
