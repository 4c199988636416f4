import DiffBudget.Proofs.Yaml.Quoted

/-!
# Plain scalars are read back

A text that is written plain holds nothing that ends a plain scalar. It ends before the colon of
its key, or before the next line if that one is not indented deeper.
-/
namespace DiffBudget.Yaml

variable {x : PlainContext}

theorem atWordEnd_eq_false {t tail : Text} (h : endsWordBefore t = false) :
    atWordEnd (t ++ tail) = false := by
  cases t with
  | nil => cases h
  | cons c t =>
    simp only [endsWordBefore, isWordEnd, Bool.or_eq_false_iff] at h
    exact h.1.1.1

theorem readPlain_gap {column : Nat} {run t : Text} :
    readPlain x column run (' ' :: t) = readPlain x (column + 1) (run ++ [' ']) t := by
  rw [readPlain, if_neg (by decide), if_pos (by decide), if_neg (by simp)]

theorem readPlain_word {column : Nat} {run t : Text} {c : Char} (hwhite : isWhite c = false)
    (hrun : run = [] ∨ x.endsAtWord column c t = false) (hflow : x.inFlow = false)
    (hcolon : (c == ':' && atWordEnd t) = false) :
    readPlain x column run (c :: t) =
      (readPlain x (column + 1) [] t).map fun s =>
        { s with text := foldRun run ++ c :: s.text } := by
  have hbreak : ¬isBreak c = true := by
    intro h
    simp [isWhite, h] at hwhite
  have hgap : ¬isGap c = true := by
    intro h
    simp [isWhite, h] at hwhite
  have hword : (!run.isEmpty && x.endsAtWord column c t) = false := by
    rcases hrun with rfl | h
    · rfl
    · rw [h, Bool.and_false]
  have hrefuses : ∀ s, x.refusesColon s = false := by
    intro s
    cases s <;> simp [PlainContext.refusesColon, hflow]
  have hends : x.endsBefore c t = false := by simp [PlainContext.endsBefore, hcolon, hflow]
  rw [readPlain, if_neg hbreak, if_neg hgap, hword, hrefuses, hends]
  simp only [Bool.false_eq_true, Bool.and_false, if_false]
  cases readPlain x (column + 1) [] t <;> rfl

theorem readPlain_append (hflow : x.inFlow = false) (tail : Text) {t : Text}
    (hprintable : t.all isPrintable = true) (hbreaks : t.any isAnyBreak = false)
    (hlast : t.getLast? ≠ some ' ') :
    ∀ (column : Nat) (run : Text), (∀ c ∈ run, c = ' ') → (t = [] → run = []) →
      (run ≠ [] → x.leastColumn ≤ column ∧ 0 < column) → x.leastColumn ≤ column + 1 →
      hasInnerIndicator (!run.isEmpty) t = false →
      readPlain x column run (t ++ tail) =
        (readPlain x (column + t.length) [] tail).map fun s =>
          { s with text := run ++ t ++ s.text } := by
  induction t with
  | nil =>
    intro column run _ hnil _ _ _
    rw [hnil rfl]
    cases h : readPlain x column [] tail <;> simp [h, Except.map]
  | cons c t ih =>
    intro column run hrun _ hcolumn hleast hinner
    have hc : isPrintable c = true := List.all_eq_true.mp hprintable c List.mem_cons_self
    have ht : t.all isPrintable = true := by simpa [hc] using hprintable
    rw [List.any_cons, Bool.or_eq_false_iff] at hbreaks
    simp only [hasInnerIndicator, Bool.or_eq_false_iff] at hinner
    obtain ⟨⟨hcolon, hremark⟩, hinner⟩ := hinner
    have hbreak : isBreak c = false := by
      have h := hbreaks.1
      simp only [isAnyBreak, Bool.or_eq_false_iff] at h
      exact h.1.1
    have hrest : t.getLast? ≠ some ' ' := by
      cases t with
      | nil => simp
      | cons d t => simpa using hlast
    by_cases hspace : c = ' '
    · subst hspace
      have hne : t ≠ [] := by
        rintro rfl
        exact hlast rfl
      rw [List.cons_append, readPlain_gap, ih ht hbreaks.2 hrest (column + 1) (run ++ [' '])]
      · simp [Nat.add_assoc, Nat.add_comm 1]
      · intro d hd
        rcases List.mem_append.mp hd with hd | hd
        · exact hrun d hd
        · exact List.mem_singleton.mp hd
      · exact fun h => absurd h hne
      · exact fun _ => ⟨hleast, Nat.succ_pos column⟩
      · exact Nat.le_succ_of_le hleast
      · rw [show (!(run ++ [' ']).isEmpty) = isWordEnd ' ' by simp [isWordEnd, isWhite, isGap]]
        exact hinner
    · have hwhite : isWhite c = false := by
        rw [isWhite_of_printable hc hbreak]
        simp [hspace]
      have hword : isWordEnd c = false := by
        have hnot : ∀ d, isPrintable d = false → c ≠ d := by
          rintro d hd rfl
          rw [hd] at hc
          exact Bool.false_ne_true hc
        simp [isWordEnd, hwhite, hnot '\r' (by decide), hnot '\u0085' (by decide),
          hnot '\x00' (by decide)]
      have hends : run = [] ∨ x.endsAtWord column c (t ++ tail) = false := by
        by_cases hnil : run = []
        · exact .inl hnil
        · obtain ⟨hle, hpos⟩ := hcolumn hnil
          have hhash : c ≠ '#' := by
            rintro rfl
            simp [hnil] at hremark
          right
          simp [PlainContext.endsAtWord, hflow, Nat.not_lt.mpr hle, Nat.ne_of_gt hpos, hhash]
      have hends' : (c == ':' && atWordEnd (t ++ tail)) = false := by
        rw [Bool.and_eq_false_iff] at hcolon ⊢
        exact hcolon.imp id atWordEnd_eq_false
      rw [hword] at hinner
      rw [List.cons_append, readPlain_word hwhite hends hflow hends',
        ih ht hbreaks.2 hrest (column + 1) [] (by simp) (fun _ => rfl) (by simp)
          (Nat.le_succ_of_le hleast) hinner, foldRun_of_spaces hrun]
      rw [List.length_cons, show column + (t.length + 1) = column + 1 + t.length by omega]
      cases readPlain x (column + 1 + t.length) [] tail <;> simp [Except.map]

theorem readPlain_colon {column : Nat} {t : Text} (hflow : x.inFlow = false)
    (hend : atWordEnd t = true) :
    readPlain x column [] (':' :: t) = .ok ⟨[], false, ':' :: t⟩ := by
  have hrefuses : x.refusesColon t = false := by
    cases t <;> simp [PlainContext.refusesColon, hflow]
  have hends : x.endsBefore ':' t = true := by simp [PlainContext.endsBefore, hend]
  rw [readPlain, if_neg (by decide), if_neg (by decide), if_neg (by simp),
    if_neg (by simp [hrefuses]), if_pos hends]
  rfl

def IsWordStart (word : Text) : Prop :=
  ∀ c ∈ word.head?, isWhite c = false ∧ c ≠ '#'

theorem isWordStart_cons {c : Char} (hwhite : isWhite c = false) (hhash : c ≠ '#') (t : Text) :
    IsWordStart (c :: t) := by
  intro d hd
  cases hd
  exact ⟨hwhite, hhash⟩

theorem readPlain_nextLine (hflow : x.inFlow = false) {word : Text} (hword : IsWordStart word)
    (indent : Nat) : ∀ (column : Nat) (run : Text), run.any isBreak = true →
      column + indent < x.leastColumn →
      readPlain x column run (spaces indent ++ word) = .ok ⟨[], true, word⟩ := by
  induction indent with
  | zero =>
    intro column run hrun hcolumn
    have hne : run ≠ [] := by
      rintro rfl
      cases hrun
    show readPlain x column run word = _
    cases word with
    | nil => rw [readPlain, hrun]
    | cons c t =>
      obtain ⟨hwhite, -⟩ := hword c rfl
      simp only [isWhite, Bool.or_eq_false_iff] at hwhite
      have hends : (!run.isEmpty && x.endsAtWord column c t) = true := by
        simp [PlainContext.endsAtWord, hflow, hne, show column < x.leastColumn by omega]
      rw [readPlain, if_neg (by simp [hwhite.2]), if_neg (by simp [hwhite.1]), if_pos hends, hrun]
  | succ indent ih =>
    intro column run hrun hcolumn
    show readPlain x column run (' ' :: (spaces indent ++ word)) = _
    rw [readPlain_gap, ih (column + 1) (run ++ [' ']) (by simp [hrun]) (by omega)]

theorem readPlain_break (hflow : x.inFlow = false) {word : Text} (hword : IsWordStart word)
    {indent : Nat} (hindent : indent < x.leastColumn) (column : Nat) :
    readPlain x column [] ('\n' :: (spaces indent ++ word)) = .ok ⟨[], true, word⟩ := by
  rw [readPlain, if_pos (by decide)]
  exact readPlain_nextLine hflow hword indent 0 ['\n'] rfl (by omega)

/-! ## Texts that are written plain -/

structure IsPlain (t : Text) : Prop where
  head : t.head? ≠ some ' '
  last : t.getLast? ≠ some ' '
  line : t.any isAnyBreak = false
  printable : t.all isPrintable = true
  start : ∀ c s, t = c :: s → isIndicatorAtStart c s = false
  inner : hasInnerIndicator false t = false

theorem isPlain_of_allowed {t : Text} (h : allowsPlain t = true) : IsPlain t := by
  simp only [allowsPlain, needsEscapes, Bool.and_eq_true, bne_iff_ne, Bool.not_eq_true',
    Bool.or_eq_false_iff, Bool.not_eq_false'] at h
  obtain ⟨⟨⟨⟨hhead, hlast⟩, hline⟩, hprintable, -⟩, hindicator⟩ := h
  have hstart : ∀ c s, t = c :: s → isIndicatorAtStart c s = false ∧
      hasInnerIndicator (isWordEnd c) s = false := by
    rintro c s rfl
    simp only [hasIndicator, Bool.or_eq_false_iff] at hindicator
    exact ⟨hindicator.1.2, hindicator.2⟩
  refine ⟨hhead, hlast, hline, hprintable, fun c s hcs => (hstart c s hcs).1, ?_⟩
  cases t with
  | nil => rfl
  | cons c s =>
    obtain ⟨hfirst, hinner⟩ := hstart c s rfl
    have hcolon : (c == ':' && endsWordBefore s) = false := by
      simp only [isIndicatorAtStart, Bool.or_eq_false_iff] at hfirst
      by_cases hc : c = ':'
      · simpa [hc] using hfirst.2
      · simp [hc]
    simp [hasInnerIndicator, hcolon, hinner]

theorem isWhite_of_isPlain {c : Char} {t : Text} (h : IsPlain (c :: t)) : isWhite c = false := by
  have hbreak : isBreak c = false := by
    have hline := h.line
    simp only [List.any_cons, Bool.or_eq_false_iff, isAnyBreak] at hline
    exact hline.1.1.1
  rw [isWhite_of_printable (List.all_eq_true.mp h.printable c List.mem_cons_self) hbreak]
  simpa using h.head

theorem IsPlain.read {t : Text} (h : IsPlain t) (hflow : x.inFlow = false) {column : Nat}
    (hleast : x.leastColumn ≤ column + 1) (tail : Text) :
    readPlain x column [] (t ++ tail) =
      (readPlain x (column + t.length) [] tail).map fun s => { s with text := t ++ s.text } := by
  rw [readPlain_append hflow tail h.printable h.line h.last column [] (by simp) (fun _ => rfl)
    (fun hne => absurd rfl hne) hleast h.inner]
  rfl

theorem IsPlain.read_key {t : Text} (h : IsPlain t) (hflow : x.inFlow = false) {column : Nat}
    (hleast : x.leastColumn ≤ column + 1) {tail : Text} (hend : atWordEnd tail = true) :
    readPlain x column [] (t ++ ':' :: tail) = .ok ⟨t, false, ':' :: tail⟩ := by
  rw [h.read hflow hleast, readPlain_colon hflow hend]
  simp [Except.map]

theorem IsPlain.read_line {t : Text} (h : IsPlain t) (hflow : x.inFlow = false) {column : Nat}
    (hleast : x.leastColumn ≤ column + 1) {word : Text} (hword : IsWordStart word) {indent : Nat}
    (hindent : indent < x.leastColumn) :
    readPlain x column [] (t ++ '\n' :: (spaces indent ++ word)) = .ok ⟨t, true, word⟩ := by
  rw [h.read hflow hleast, readPlain_break hflow hword hindent]
  simp [Except.map]

end DiffBudget.Yaml
