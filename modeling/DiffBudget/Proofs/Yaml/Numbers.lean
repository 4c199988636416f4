import DiffBudget.Proofs.Hunk.Header
import DiffBudget.Yaml.Resolution
import Mathlib.Data.Option.Basic

/-!
# Written numbers

A decimal number without leading zeros is read as the number it is.
-/
namespace DiffBudget.Yaml

open Text (ofNat)

theorem ne_of_mem_ofNat {n : Nat} {c d : Char} (hc : c ∈ ofNat n) (hd : Text.isDigit d = false) :
    c ≠ d := by
  rintro rfl
  rw [Text.isDigit_of_mem_ofNat hc] at hd
  cases hd

theorem dropSign_ofNat {marks : Text} (hmarks : ∀ d ∈ marks, Text.isDigit d = false) (n : Nat) :
    dropSign marks (ofNat n) = ofNat n := by
  unfold dropSign
  split
  · next c t h =>
    have hc : c ∈ ofNat n := by rw [h]; exact List.mem_cons_self
    have hnot : marks.contains c = false := by
      rw [← Bool.not_eq_true, List.contains_iff_mem]
      intro hmem
      exact ne_of_mem_ofNat hc (hmarks c hmem) rfl
    rw [hnot]
    simp [h]
  · next h => exact h.symm

theorem eq_nil_of_ofNat {n : Nat} {t : Text} (h : ofNat n = '0' :: t) : t = [] := by
  induction n using Nat.strongRecOn generalizing t with
  | ind n ih =>
    rcases Nat.lt_or_ge n 10 with hn | hn
    · have hdigit : ofNat n = [Nat.digitChar n] := Nat.toDigits_of_lt_base hn
      rw [hdigit] at h
      simpa using (List.cons.inj h).2.symm
    · have hdigits : ofNat n = ofNat (n / 10) ++ [Nat.digitChar (n % 10)] :=
        Nat.toDigits_of_base_le (by decide) hn
      cases hfront : ofNat (n / 10) with
      | nil => exact absurd hfront Nat.toDigits_ne_nil
      | cons c front =>
        rw [hdigits, hfront, List.cons_append, List.cons.injEq] at h
        obtain ⟨rfl, -⟩ := h
        have hnil := ih (n / 10) (by omega) hfront
        subst hnil
        have hvalue := Text.valueIn_ofNat (n / 10)
        rw [hfront] at hvalue
        have hzero : n / 10 = 0 := hvalue.symm
        omega

theorem hasLeadingZero_ofNat (n : Nat) : hasLeadingZero (ofNat n) = false := by
  rw [hasLeadingZero, dropSign_ofNat (by simp [Text.isDigit])]
  split
  · next c t h => exact absurd (eq_nil_of_ofNat h) (List.cons_ne_nil c t)
  · rfl

theorem based?_ofNat (n : Nat) : based? (ofNat n) = none := by
  have hnone : ∀ b ∈ bases, b.1.isPrefixOf? (ofNat n) = none := by
    intro b hb
    have hmark : ∃ d ∈ b.1, Text.isDigit d = false := by
      revert b
      simp [bases, Text.isDigit]
    obtain ⟨d, hd, hdigit⟩ := hmark
    rw [Option.eq_none_iff_forall_ne_some]
    intro rest hprefix
    have happend := List.isPrefixOf?_eq_some_iff_append_eq.mp hprefix
    exact ne_of_mem_ofNat (by rw [← happend]; exact List.mem_append_left rest hd) hdigit rfl
  rw [based?, List.findSome?_eq_none_iff]
  intro b hb
  rw [hnone b hb]
  rfl

theorem hexDigit?_digit {c : Char} (h : Text.isDigit c = true) :
    hexDigit? c = some (Text.decimalDigit c) ∧ Text.decimalDigit c < 10 := by
  refine ⟨by rw [hexDigit?, if_pos h]; rfl, ?_⟩
  have hle : ∀ a b : Char, (a ≤ b) = (a.toNat ≤ b.toNat) := fun _ _ => rfl
  simp only [Text.isDigit, Bool.and_eq_true, decide_eq_true_eq, hle] at h
  have hlow : '0'.toNat = 48 := rfl
  have hhigh : '9'.toNat = 57 := rfl
  rw [Text.decimalDigit]
  omega

theorem digits?_digits {t : Text} (hne : t ≠ []) (h : ∀ c ∈ t, Text.isDigit c = true) :
    digits? 10 t = some (Text.valueIn 10 Text.decimalDigit t) := by
  have hfold : ∀ n, t.foldlM (fun n c => do
      let d ← hexDigit? c
      guard (d < 10)
      return n * 10 + d) n = some (t.foldl (fun n c => n * 10 + Text.decimalDigit c) n) := by
    clear hne
    induction t with
    | nil => intro n; rfl
    | cons c t ih =>
      intro n
      obtain ⟨hdigit, hlt⟩ := hexDigit?_digit (h c List.mem_cons_self)
      have hrest := ih (fun d hd => h d (List.mem_cons_of_mem c hd)) (n * 10 + Text.decimalDigit c)
      rw [List.foldlM_cons, List.foldl_cons, ← hrest, hdigit]
      simp [hlt]
  have hguard : (!t.isEmpty) = true := by simp [hne]
  rw [digits?, hguard]
  exact hfold 0

theorem natural?_ofNat (n : Nat) : natural? (ofNat n) = some n := by
  have hdigits := digits?_digits (t := ofNat n) Nat.toDigits_ne_nil
    fun _ => Text.isDigit_of_mem_ofNat
  rw [natural?, dropSign_ofNat (by simp [Text.isDigit])]
  simp only [based?_ofNat, hasLeadingZero_ofNat, hdigits, Text.valueIn_ofNat]
  rfl

theorem isNullWord_ofNat (n : Nat) : isNullWord (ofNat n) = false := by
  have hnone : ∀ word ∈ ["null".toList, "Null".toList, "NULL".toList, "~".toList],
      natural? word = none := by decide
  rw [← Bool.not_eq_true, isNullWord, List.contains_iff_mem]
  intro hmem
  have hread := hnone _ hmem
  rw [natural?_ofNat] at hread
  cases hread

end DiffBudget.Yaml
