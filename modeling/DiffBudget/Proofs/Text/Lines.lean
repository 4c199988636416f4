import DiffBudget.EditScript.Unified
import Mathlib.Data.List.Basic

/-!
# Ended lines and their texts

A text that ends every line, and where carriage returns stand before line feeds only, is cut into
the same lines with their endings and without.
-/
namespace DiffBudget

section Run

variable {α : Type} {p : α → Bool} {front back : List α}
  (hfront : ∀ a ∈ front, p a = true) (hback : ∀ a ∈ back.head?, p a = false)

include hfront hback

theorem takeWhile_run : (front ++ back).takeWhile p = front := by
  rw [List.takeWhile_append_of_pos hfront]
  cases back with
  | nil => simp
  | cons a back => simp [hback a rfl]

theorem dropWhile_run : (front ++ back).dropWhile p = back := by
  rw [List.dropWhile_append_of_pos hfront]
  cases back with
  | nil => simp
  | cons a back => simp [hback a rfl]

end Run

namespace Text

theorem isPrefixOf?_append (front t : Text) : front.isPrefixOf? (front ++ t) = some t :=
  List.isPrefixOf?_eq_some_iff_append_eq.mpr rfl

def dropReturn (l : Text) : Text := if l.getLast? = some '\r' then l.dropLast else l

theorem dropReturn_cons {c : Char} {l : Text} (h : c ≠ '\r' ∨ l ≠ []) :
    dropReturn (c :: l) = c :: dropReturn l := by
  unfold dropReturn
  cases l with
  | nil =>
    have hc : c ≠ '\r' := h.resolve_right fun h => h rfl
    simp [hc]
  | cons d l =>
    rw [List.getLast?_cons_cons]
    split <;> rfl

theorem lines_cons {c : Char} {t : Text} (hc : c ≠ '\n')
    (hreturn : c = '\r' → t.head? ≠ some '\n') {l : Text} {ls : List Text}
    (ht : lines t = l :: ls) : lines (c :: t) = (c :: l) :: ls := by
  rw [lines, ht]
  · exact hc
  · rintro u rfl rfl
    exact hreturn rfl rfl

theorem lines_append_newline {l : Text} (h : '\n' ∉ l) (t : Text) :
    lines (l ++ '\n' :: t) = dropReturn l :: lines t := by
  induction l with
  | nil => exact lines_newline t
  | cons c l ih =>
    obtain ⟨hc, hl⟩ : '\n' ≠ c ∧ '\n' ∉ l := by simpa using h
    by_cases hreturn : c = '\r' ∧ l = []
    · obtain ⟨rfl, rfl⟩ := hreturn
      simp [lines, dropReturn]
    · have hnot : c = '\r' → l ≠ [] := fun hc hl => hreturn ⟨hc, hl⟩
      have hkept : c ≠ '\r' ∨ l ≠ [] :=
        Decidable.or_iff_not_imp_left.mpr fun h => hnot (Decidable.not_not.mp h)
      rw [dropReturn_cons hkept, List.cons_append]
      refine lines_cons hc.symm (fun hc => ?_) (ih hl)
      cases l with
      | nil => exact absurd rfl (hnot hc)
      | cons d l =>
        rintro ⟨⟩
        exact hl List.mem_cons_self

theorem lines_of_no_newline {l : Text} (h : '\n' ∉ l) (hne : l ≠ []) : lines l = [l] := by
  induction l with
  | nil => exact absurd rfl hne
  | cons c l ih =>
    obtain ⟨hc, hl⟩ : '\n' ≠ c ∧ '\n' ∉ l := by simpa using h
    cases l with
    | nil =>
      rw [lines, lines_nil]
      · exact hc.symm
      · rintro u - ⟨⟩
    | cons d l =>
      refine lines_cons hc.symm (fun _ hd => ?_) (ih hl (List.cons_ne_nil d l))
      cases hd
      exact hl List.mem_cons_self

/-- Behind a text that is empty or ends with a line feed, another text has lines of its own. -/
theorem lines_append_of_closed {a : Text} (h : a = [] ∨ a.getLast? = some '\n') (b : Text) :
    lines (a ++ b) = lines a ++ lines b := by
  induction hn : a.length using Nat.strongRecOn generalizing a with
  | _ n ih =>
    rcases h with rfl | h
    · rfl
    · obtain ⟨l, t, rfl, hl⟩ := List.eq_append_cons_of_mem (List.mem_of_getLast? h)
      have ht : t = [] ∨ t.getLast? = some '\n' := by
        cases t with
        | nil => exact .inl rfl
        | cons d t => exact .inr (by simpa [List.getLast?_append] using h)
      have hlt : t.length < n := by
        rw [← hn, List.length_append, List.length_cons]
        omega
      rw [List.append_assoc, List.cons_append, lines_append_newline hl, lines_append_newline hl,
        ih t.length hlt ht rfl, List.cons_append]

theorem newline_not_mem_lines (t : Text) : ∀ l ∈ lines t, '\n' ∉ l := by
  fun_induction lines t with
  | case1 => exact fun l hl => absurd hl List.not_mem_nil
  | case2 t ih => exact List.forall_mem_cons.mpr ⟨List.not_mem_nil, ih⟩
  | case3 t ih => exact List.forall_mem_cons.mpr ⟨List.not_mem_nil, ih⟩
  | case4 c t hnewline _ _ _ =>
    intro l hl
    obtain rfl := List.mem_singleton.mp hl
    simpa using Ne.symm hnewline
  | case5 c t hnewline _ l ls hls ih =>
    rw [hls] at ih
    obtain ⟨hl, hrest⟩ := List.forall_mem_cons.mp ih
    refine List.forall_mem_cons.mpr ⟨?_, hrest⟩
    simpa [hl] using Ne.symm hnewline

/-- The text is one line and keeps its end when it is read back. -/
def IsLine (l : Text) : Prop := '\n' ∉ l ∧ l.getLast? ≠ some '\r'

instance (l : Text) : Decidable (IsLine l) := inferInstanceAs (Decidable (_ ∧ _))

theorem IsLine.dropReturn {l : Text} (h : IsLine l) : dropReturn l = l := if_neg h.2

theorem IsLine.cons {c : Char} {l : Text} (h : IsLine l) (hnewline : c ≠ '\n')
    (hreturn : c ≠ '\r') : IsLine (c :: l) := by
  refine ⟨by simpa [h.1] using hnewline.symm, ?_⟩
  cases l with
  | nil => simpa using hreturn
  | cons d l =>
    rw [List.getLast?_cons_cons]
    exact h.2

theorem IsLine.append {l : Text} (h : IsLine l) (hne : l ≠ []) {front : Text}
    (hfront : '\n' ∉ front) : IsLine (front ++ l) := by
  refine ⟨by simp [hfront, h.1], ?_⟩
  rw [List.getLast?_append, List.getLast?_eq_some_getLast hne, Option.some_or,
    ← List.getLast?_eq_some_getLast hne]
  exact h.2

theorem lines_unlines {ls : List Text} (h : ∀ l ∈ ls, IsLine l) : lines (unlines ls) = ls := by
  induction ls with
  | nil => rfl
  | cons l ls ih =>
    obtain ⟨hl, hls⟩ := List.forall_mem_cons.mp h
    rw [unlines_cons, lines_append_newline hl.1, hl.dropReturn, ih hls]

theorem lines_joinLines {ls : List Text} (h : ∀ l ∈ ls, IsLine l) (hne : ∀ l ∈ ls, l ≠ []) :
    lines (joinLines ls) = ls := by
  induction ls with
  | nil => rfl
  | cons l ls ih =>
    obtain ⟨hl, hls⟩ := List.forall_mem_cons.mp h
    obtain ⟨hnonempty, hrest⟩ := List.forall_mem_cons.mp hne
    cases ls with
    | nil =>
      rw [joinLines_singleton]
      exact lines_of_no_newline hl.1 hnonempty
    | cons next ls =>
      rw [joinLines_cons_cons, lines_append_newline hl.1, hl.dropReturn, ih hls hrest]

def ReturnsPaired : Text → Prop
  | [] => True
  | c :: t => (c = '\r' → t.head? = some '\n') ∧ ReturnsPaired t

instance decidableReturnsPaired : (t : Text) → Decidable (ReturnsPaired t)
  | [] => inferInstanceAs (Decidable True)
  | _ :: t =>
    have := decidableReturnsPaired t
    inferInstanceAs (Decidable (_ ∧ _))

def Ended (e : Text) : Prop := ∃ l, '\n' ∉ l ∧ e = l ++ ['\n']

def lineOf (e : Text) : Text := dropReturn e.dropLast

theorem lines_append_of_ended {e : Text} (h : Ended e) (t : Text) :
    lines (e ++ t) = lineOf e :: lines t := by
  obtain ⟨l, hl, rfl⟩ := h
  rw [lineOf, List.dropLast_concat, List.append_assoc]
  exact lines_append_newline hl t

theorem lines_flatten_append {es : List Text} (h : ∀ e ∈ es, Ended e) (t : Text) :
    lines (es.flatten ++ t) = es.map lineOf ++ lines t := by
  induction es with
  | nil => rfl
  | cons e es ih =>
    obtain ⟨he, hes⟩ := List.forall_mem_cons.mp h
    rw [List.flatten_cons, List.append_assoc, lines_append_of_ended he, ih hes]
    rfl

theorem last_of_tail {c : Char} {t : Text} (h : ∀ d ∈ (c :: t).getLast?, d = '\n') :
    ∀ d ∈ t.getLast?, d = '\n' := by
  intro d hd
  refine h d ?_
  rw [List.getLast?_cons, Option.mem_def.mp hd]
  rfl

open EditScript in
theorem ended_of_mem_endedLines {t : Text} (hpaired : ReturnsPaired t)
    (hlast : ∀ c ∈ t.getLast?, c = '\n') : ∀ e ∈ endedLines t, Ended e := by
  fun_induction endedLines t with
  | case1 => exact fun e he => absurd he List.not_mem_nil
  | case2 t ih =>
    exact List.forall_mem_cons.mpr
      ⟨⟨[], List.not_mem_nil, rfl⟩, ih hpaired.2 (last_of_tail hlast)⟩
  | case3 t ih =>
    exact List.forall_mem_cons.mpr
      ⟨⟨['\r'], by decide, rfl⟩, ih hpaired.2.2 (last_of_tail (last_of_tail hlast))⟩
  | case4 t hnewline ih =>
    -- only here a lone carriage return would end a line
    obtain ⟨u, rfl⟩ := List.head?_eq_some_iff.mp (hpaired.1 rfl)
    exact absurd rfl (hnewline u)
  | case5 c t hc hreturn hc' hempty ih =>
    have ht : t = [] := by
      rw [← endedLines_flatten t, hempty]
      rfl
    subst ht
    exact absurd (hlast c rfl) hc
  | case6 c t hc hreturn hc' e es hes ih =>
    rw [hes] at ih
    obtain ⟨⟨l, hl, rfl⟩, hrest⟩ := List.forall_mem_cons.mp (ih hpaired.2 (last_of_tail hlast))
    refine List.forall_mem_cons.mpr ⟨⟨c :: l, ?_, rfl⟩, hrest⟩
    simpa [hl] using Ne.symm hc

theorem lines_eq_map_lineOf {t : Text} (hpaired : ReturnsPaired t)
    (hlast : ∀ c ∈ t.getLast?, c = '\n') :
    lines t = (EditScript.endedLines t).map lineOf := by
  have hflat := lines_flatten_append (ended_of_mem_endedLines hpaired hlast) []
  rwa [List.append_nil, EditScript.endedLines_flatten, lines_nil, List.append_nil] at hflat

theorem lines_markedLine_append {e : Text} (h : Ended e) {mark : Char} (hnewline : mark ≠ '\n')
    (hreturn : mark ≠ '\r') (t : Text) :
    lines (EditScript.markedLine mark e ++ t) = (mark :: lineOf e) :: lines t := by
  obtain ⟨l, hl, rfl⟩ := h
  have hended : EditScript.isEnded (l ++ ['\n']) = true := by simp [EditScript.isEnded]
  have hmark : '\n' ∉ mark :: l := by simpa [hl] using Ne.symm hnewline
  rw [EditScript.markedLine, if_pos hended, List.append_nil, List.cons_append, List.append_assoc,
    lineOf, List.dropLast_concat, ← dropReturn_cons (.inl hreturn)]
  exact lines_append_newline hmark t

end Text

end DiffBudget
