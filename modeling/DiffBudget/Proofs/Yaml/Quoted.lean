import DiffBudget.Yaml.Printer
import Mathlib.Algebra.Group.Nat.Defs
import Mathlib.Data.List.Basic
import Mathlib.Data.List.Chain

/-!
# Quoted scalars are read back

What stands between double quotes holds no raw break, so its white space is never folded. Between
single quotes a line break keeps its place because no space stands next to it.
-/
namespace DiffBudget.Yaml

/-! ## Codes of characters -/

theorem hexDigit?_upperHex : ∀ d < 16, hexDigit? (upperHex d) = some d := by decide

theorem hexCode_zero (n : Nat) : hexCode 0 n = [] := rfl

theorem hexCode_succ (width n : Nat) :
    hexCode (width + 1) n = hexCode width (n / 16) ++ [upperHex (n % 16)] := rfl

@[simp] theorem length_hexCode (width n : Nat) : (hexCode width n).length = width := by
  induction width generalizing n with
  | zero => rfl
  | succ width ih => rw [hexCode_succ, List.length_append, ih]; rfl

/-- Some digits of a code, of which `more + 1` are still to come. -/
theorem doubleQuotedParts_hexCode (width : Nat) :
    ∀ (more value n : Nat) (t : Text), n < 16 ^ width →
    doubleQuotedParts false (.code (more + width) value) (hexCode width n ++ t) =
      doubleQuotedParts false (.code more (value * 16 ^ width + n)) t := by
  induction width with
  | zero =>
    intro more value n t h
    obtain rfl : n = 0 := by omega
    simp [hexCode_zero]
  | succ width ih =>
    intro more value n t h
    have hlt : n / 16 < 16 ^ width := by
      rw [Nat.div_lt_iff_lt_mul (by omega)]
      exact h
    have hdigit := hexDigit?_upperHex (n % 16) (Nat.mod_lt n (by omega))
    rw [hexCode_succ, List.append_assoc, show more + (width + 1) = (more + 1) + width by omega,
      ih (more + 1) value (n / 16) _ hlt]
    simp only [List.cons_append, List.nil_append, doubleQuotedParts, hdigit]
    have hvalue : (value * 16 ^ width + n / 16) * 16 + n % 16 =
        value * 16 ^ (width + 1) + n := by
      rw [Nat.pow_succ, ← Nat.mul_assoc]
      omega
    rw [hvalue]

theorem doubleQuotedParts_code (width : Nat) (c : Char) (t : Text)
    (h : c.toNat < 16 ^ (width + 1)) :
    doubleQuotedParts false (.code width 0) (hexCode (width + 1) c.toNat ++ t) =
      (doubleQuotedParts false .between t).map fun p => (.shown c :: p.1, p.2) := by
  have hlt : c.toNat / 16 < 16 ^ width := by
    rw [Nat.div_lt_iff_lt_mul (by omega)]
    exact h
  have hdigit := hexDigit?_upperHex (c.toNat % 16) (Nat.mod_lt _ (by omega))
  have hvalue : 0 * 16 ^ width + c.toNat / 16 = c.toNat / 16 := by omega
  have hwhole : c.toNat / 16 * 16 + c.toNat % 16 = c.toNat := by omega
  have hchar : codeChar? c.toNat = some c := by
    have hvalid : c.toNat.isValidChar := c.valid
    rw [codeChar?, if_pos hvalid, Char.ofNat_toNat]
  have hcode := doubleQuotedParts_hexCode width 0 0 (c.toNat / 16)
    (upperHex (c.toNat % 16) :: t) hlt
  rw [Nat.zero_add, hvalue] at hcode
  rw [hexCode_succ, List.append_assoc, List.cons_append, List.nil_append, hcode]
  simp only [doubleQuotedParts, hdigit, hwhole, hchar]

/-! ## Double quotes -/

def quotedPart (c : Char) : Part := if c == ' ' then .white ' ' else .shown c

theorem escapeLetter?_spec {c letter : Char} (h : escapeLetter? c = some letter) :
    isBreak letter = false ∧ codeLength? letter = none ∧ escaped? letter = some c := by
  unfold escapeLetter? at h
  split at h <;> cases h <;> decide

theorem doubleQuotedParts_letter {c letter : Char} (h : escapeLetter? c = some letter) (t : Text) :
    doubleQuotedParts false .backslash (letter :: t) =
      (doubleQuotedParts false .between t).map fun p => (.shown c :: p.1, p.2) := by
  obtain ⟨hbreak, hcode, hescaped⟩ := escapeLetter?_spec h
  simp [doubleQuotedParts, hbreak, hcode, hescaped]

theorem doubleQuotedParts_escapeCode (c : Char) (t : Text) :
    doubleQuotedParts false .backslash (escapeCode c ++ t) =
      (doubleQuotedParts false .between t).map fun p => (.shown c :: p.1, p.2) := by
  have hvalid : c.toNat < 0x110000 := by
    rcases c.valid with h | ⟨-, h⟩
    · exact Nat.lt_trans h (by decide)
    · exact h
  unfold escapeCode
  dsimp only
  split
  · next h => exact doubleQuotedParts_code 1 c t (by omega)
  · split
    · next h => exact doubleQuotedParts_code 3 c t (by omega)
    · exact doubleQuotedParts_code 7 c t (by omega)

theorem not_mustEscape {c : Char} (h : mustEscape c = false) :
    isPrintable c = true ∧ isBreak c = false ∧ c ≠ '"' ∧ c ≠ '\\' := by
  simpa [mustEscape, and_assoc] using h

theorem isWhite_of_printable {c : Char} (hprintable : isPrintable c = true)
    (hbreak : isBreak c = false) : isWhite c = (c == ' ') := by
  have htab : c ≠ '\t' := by
    rintro rfl
    exact absurd hprintable (by decide)
  simp [isWhite, isGap, hbreak, htab]

theorem doubleQuotedParts_char (c : Char) (t : Text) :
    doubleQuotedParts false .between (doubleQuotedChar c ++ t) =
      (doubleQuotedParts false .between t).map fun p => (quotedPart c :: p.1, p.2) := by
  cases hc : mustEscape c with
  | false =>
    obtain ⟨hprintable, hbreak, hquote, hback⟩ := not_mustEscape hc
    have hpart : Part.ofChar c = quotedPart c := by
      by_cases hspace : c = ' '
      · subst hspace
        rfl
      · simp [Part.ofChar, quotedPart, isWhite_of_printable hprintable hbreak, hspace]
    rw [doubleQuotedChar, hc]
    simp [doubleQuotedParts, hquote, hback, hbreak, hpart]
  | true =>
    have hspace : c ≠ ' ' := by
      rintro rfl
      exact absurd hc (by decide)
    have hback : doubleQuotedParts false .between (doubleQuotedChar c ++ t) =
        doubleQuotedParts false .backslash
          (((escapeLetter? c).map ([·])).getD (escapeCode c) ++ t) := by
      rw [doubleQuotedChar, hc]
      simp [doubleQuotedParts]
    have hpart : quotedPart c = .shown c := by simp [quotedPart, hspace]
    rw [hback, hpart]
    cases hletter : escapeLetter? c with
    | none => exact doubleQuotedParts_escapeCode c t
    | some letter => exact doubleQuotedParts_letter hletter t

theorem doubleQuotedParts_written (t tail : Text) :
    doubleQuotedParts false .between (t.flatMap doubleQuotedChar ++ '"' :: tail) =
      .ok (t.map quotedPart, tail) := by
  induction t with
  | nil => rfl
  | cons c t ih =>
    rw [List.flatMap_cons, List.append_assoc, doubleQuotedParts_char, ih]
    rfl

theorem foldRun_of_no_break {run : Text} (h : ∀ c ∈ run, isBreak c = false) :
    foldRun run = run := by
  have hfilter : run.filter isBreak = [] := by
    rw [List.filter_eq_nil_iff]
    intro c hc
    simp [h c hc]
  rw [foldRun, hfilter]

theorem textAfter_quotedPart (t run : Text) (h : ∀ c ∈ run, c = ' ') :
    Part.textAfter false run (t.map quotedPart) = run ++ t := by
  have hfold : ∀ {run : Text}, (∀ c ∈ run, c = ' ') → foldRun run = run := by
    intro run hrun
    apply foldRun_of_no_break
    intro c hc
    rw [hrun c hc]
    decide
  induction t generalizing run with
  | nil => simpa [Part.textAfter, Part.closeRun] using hfold h
  | cons c t ih =>
    rw [List.map_cons]
    by_cases hc : c = ' '
    · subst hc
      have hrun : ∀ c ∈ run ++ [' '], c = ' ' := by
        intro c hc
        rcases List.mem_append.mp hc with hc | hc
        · exact h c hc
        · simpa using hc
      simp [quotedPart, Part.textAfter, ih _ hrun]
    · have hnil := ih [] (by simp)
      simp [quotedPart, hc, Part.textAfter, Part.closeRun, hfold h, hnil]

theorem readDoubleQuoted_written (t tail : Text) :
    readDoubleQuoted (t.flatMap doubleQuotedChar ++ '"' :: tail) = .ok (t, tail) := by
  have htext : Part.text (t.map quotedPart) = t := textAfter_quotedPart t [] (by simp)
  rw [readDoubleQuoted, doubleQuotedParts_written, Except.map, htext]

/-! ## Single quotes -/

theorem opensWith_of_ne {c d : Char} (h : c ≠ d) (mark t : Text) :
    opensWith (d :: mark) (c :: t) = false := by
  simp [opensWith, List.isPrefixOf?, Ne.symm h]

theorem opensWith_marks {c : Char} (hdash : c ≠ '-') (hdot : c ≠ '.') (t : Text) :
    opensWith documentStartMark (c :: t) = false ∧ opensWith documentEndMark (c :: t) = false :=
  ⟨opensWith_of_ne hdash _ t, opensWith_of_ne hdot _ t⟩

theorem atDocumentMark_of_ne {c : Char} (hdash : c ≠ '-') (hdot : c ≠ '.') (t : Text) :
    atDocumentMark (c :: t) = false := by
  obtain ⟨hstart, hend⟩ := opensWith_marks hdash hdot t
  rw [atDocumentMark, hstart, hend, Bool.or_self]

theorem singleQuotedParts_cons {c : Char} {fresh : Bool} {t : Text} (hquote : c ≠ '\'')
    (hmark : (fresh && atDocumentMark (c :: t)) = false) :
    singleQuotedParts fresh (c :: t) =
      (singleQuotedParts (isBreak c) t).map fun p => (.ofChar c :: p.1, p.2) := by
  rw [singleQuotedParts]
  · rw [if_neg hquote, hmark]
    rfl
  · intro s heq
    exact absurd heq hquote

theorem singleQuotedParts_space (fresh : Bool) (t : Text) :
    singleQuotedParts fresh (' ' :: t) =
      (singleQuotedParts false t).map fun p => (.white ' ' :: p.1, p.2) := by
  have hmark : (fresh && atDocumentMark (' ' :: t)) = false := by
    rw [atDocumentMark_of_ne (by decide) (by decide), Bool.and_false]
  exact singleQuotedParts_cons (by decide) hmark

theorem singleQuotedParts_spaces {n : Nat} (hn : 0 < n) (fresh : Bool) (t : Text) :
    singleQuotedParts fresh (spaces n ++ t) =
      (singleQuotedParts false t).map fun p => (List.replicate n (.white ' ') ++ p.1, p.2) := by
  induction n generalizing fresh with
  | zero => exact absurd hn (Nat.lt_irrefl 0)
  | succ n ih =>
    show singleQuotedParts fresh (' ' :: (spaces n ++ t)) = _
    rw [singleQuotedParts_space]
    cases n with
    | zero => rfl
    | succ n =>
      rw [ih (Nat.succ_pos n)]
      cases singleQuotedParts false t <;> rfl

theorem singleQuotedParts_quote (t : Text) (ht : t.head? ≠ some '\'') (fresh : Bool) :
    singleQuotedParts fresh ('\'' :: t) = .ok ([], t) := by
  rw [singleQuotedParts]
  · exact if_pos rfl
  · rintro s - rfl
    exact ht rfl

def pad (indent : Nat) (afterBreak : Bool) : List Part :=
  if afterBreak then List.replicate indent (.white ' ') else []

def linedParts (indent : Nat) (afterBreak : Bool) : Text → List Part
  | [] => pad indent afterBreak
  | c :: t =>
    if isBreak c then .white c :: linedParts indent true t
    else pad indent afterBreak ++ quotedPart c :: linedParts indent false t

theorem singleQuotedParts_pad {indent : Nat} (hindent : 0 < indent) (afterBreak : Bool) (t : Text) :
    singleQuotedParts afterBreak ((if afterBreak then spaces indent else []) ++ t) =
      (singleQuotedParts false t).map fun p => (pad indent afterBreak ++ p.1, p.2) := by
  cases afterBreak with
  | false => cases h : singleQuotedParts false t <;> simp [h, pad, Except.map]
  | true => exact singleQuotedParts_spaces hindent true t

theorem singleQuotedParts_written {indent : Nat} (hindent : 0 < indent) {t tail : Text}
    (hprintable : t.all isPrintable = true) (htail : tail.head? ≠ some '\'') (afterBreak : Bool) :
    singleQuotedParts afterBreak (singleQuotedBody indent afterBreak t ++ '\'' :: tail) =
      .ok (linedParts indent afterBreak t, tail) := by
  induction t generalizing afterBreak with
  | nil =>
    rw [singleQuotedBody, singleQuotedParts_pad hindent, singleQuotedParts_quote tail htail]
    simp [Except.map, linedParts]
  | cons c t ih =>
    have hc : isPrintable c = true := List.all_eq_true.mp hprintable c List.mem_cons_self
    have ht : t.all isPrintable = true :=
      List.all_eq_true.mpr fun d hd => List.all_eq_true.mp hprintable d (List.mem_cons_of_mem c hd)
    cases hbreak : isBreak c with
    | true =>
      have hwhite : Part.ofChar c = .white c := by simp [Part.ofChar, isWhite, hbreak]
      have hmark : (afterBreak && atDocumentMark
          (c :: (singleQuotedBody indent true t ++ '\'' :: tail))) = false := by
        rw [atDocumentMark_of_ne, Bool.and_false]
        · rintro rfl
          exact absurd hbreak (by decide)
        · rintro rfl
          exact absurd hbreak (by decide)
      have hquote : c ≠ '\'' := by
        rintro rfl
        exact absurd hbreak (by decide)
      rw [singleQuotedBody, if_pos hbreak, List.cons_append, singleQuotedParts_cons hquote hmark,
        hbreak, ih ht true, hwhite, linedParts, if_pos hbreak]
      rfl
    | false =>
      have hfalse : ¬isBreak c = true := by simp [hbreak]
      rw [singleQuotedBody, if_neg hfalse, List.append_assoc, List.append_assoc,
        singleQuotedParts_pad hindent, linedParts, if_neg hfalse]
      by_cases hquote : c = '\''
      · subst hquote
        show Except.map _ (singleQuotedParts false
          ('\'' :: '\'' :: (singleQuotedBody indent false t ++ '\'' :: tail))) = _
        rw [singleQuotedParts, ih ht false]
        rfl
      · have hpart : Part.ofChar c = quotedPart c := by
          by_cases hspace : c = ' '
          · subst hspace
            rfl
          · simp [Part.ofChar, quotedPart, isWhite_of_printable hc hbreak, hspace]
        have hchar : (if (c == '\'') = true then ['\'', '\''] else [c]) = [c] := by simp [hquote]
        rw [hchar, List.cons_append, List.nil_append, singleQuotedParts_cons hquote rfl, hbreak,
          ih ht false, hpart]
        rfl

/-- Spaces and line breaks do not stand next to each other. -/
def Apart (a b : Char) : Prop :=
  (isSpace a = true → isAnyBreak b = false) ∧ (isAnyBreak a = true → isSpace b = false)

theorem hasPair_cons_cons (p q : Char → Bool) (a b : Char) (t : Text) :
    hasPair p q (a :: b :: t) = ((p a && q b) || hasPair p q (b :: t)) := by
  simp [hasPair]

theorem isChain_apart {t : Text} (h : hasPair isSpace isAnyBreak t = false)
    (h' : hasPair isAnyBreak isSpace t = false) : t.IsChain Apart := by
  induction t with
  | nil => exact .nil
  | cons a t ih =>
    cases t with
    | nil => exact .singleton a
    | cons b t =>
      rw [hasPair_cons_cons, Bool.or_eq_false_iff] at h h'
      refine .cons_cons ⟨?_, ?_⟩ (ih h.2 h'.2)
      · intro ha
        simpa [ha] using h.1
      · intro ha
        simpa [ha] using h'.1

theorem foldRun_of_breaks {run : Text} (hne : run ≠ [])
    (h : ∀ c ∈ run, isBreak c = true ∧ c ≠ '\n') (n : Nat) : foldRun (run ++ spaces n) = run := by
  have hfilter : (run ++ spaces n).filter isBreak = run := by
    rw [List.filter_append, List.filter_eq_self.mpr fun c hc => (h c hc).1,
      List.filter_eq_nil_iff.mpr, List.append_nil]
    intro c hc
    rw [List.eq_of_mem_replicate hc]
    decide
  cases run with
  | nil => exact absurd rfl hne
  | cons c run =>
    have hc : c ≠ '\n' := (h c List.mem_cons_self).2
    rw [foldRun, hfilter]
    split <;> simp_all

theorem textAfter_pad (n : Nat) (run : Text) (ps : List Part) :
    Part.textAfter false run (List.replicate n (.white ' ') ++ ps) =
      Part.textAfter false (run ++ spaces n) ps := by
  induction n generalizing run with
  | zero => simp [spaces]
  | succ n ih =>
    rw [List.replicate_succ, List.cons_append, Part.textAfter, ih, List.append_assoc]
    rfl

theorem isAnyBreak_of_isBreak {c : Char} (h : isBreak c = true) : isAnyBreak c = true := by
  simp [isAnyBreak, h]

theorem foldRun_of_spaces {run : Text} (h : ∀ c ∈ run, c = ' ') : foldRun run = run := by
  apply foldRun_of_no_break
  intro c hc
  rw [h c hc]
  decide

/-- Behind a run of spaces, or of breaks that no space follows, the rest of the text is kept with
the run. -/
theorem textAfter_linedParts (indent : Nat) {t : Text} (hchain : t.IsChain Apart)
    (hline : '\n' ∉ t) :
    (∀ run : Text, (∀ c ∈ run, c = ' ') → (run ≠ [] → ∀ c ∈ t.head?, isBreak c = false) →
      Part.textAfter false run (linedParts indent false t) = run ++ t) ∧
    ∀ run : Text, run ≠ [] → (∀ c ∈ run, isBreak c = true ∧ c ≠ '\n') →
      (∀ c ∈ t.head?, c ≠ ' ') →
      Part.textAfter false run (linedParts indent true t) = run ++ t := by
  induction t with
  | nil =>
    constructor
    · intro run hrun _
      simpa [linedParts, pad, Part.textAfter, Part.closeRun] using foldRun_of_spaces hrun
    · intro run hne hrun _
      have hpad := textAfter_pad indent run []
      rw [List.append_nil] at hpad
      rw [linedParts, pad, if_pos rfl, hpad, List.append_nil]
      exact foldRun_of_breaks hne hrun indent
  | cons c t ih =>
    have hc : c ≠ '\n' := fun hc => hline (hc ▸ List.mem_cons_self)
    have hapart : ∀ d ∈ t.head?, Apart c d := by
      intro d hd
      cases t with
      | nil => cases hd
      | cons e t =>
        cases hd
        exact (List.isChain_cons_cons.mp hchain).1
    obtain ⟨hspaces, hbreaks⟩ := ih hchain.tail fun h => hline (List.mem_cons_of_mem c h)
    cases hbreak : isBreak c with
    | true =>
      have hahead : ∀ d ∈ t.head?, d ≠ ' ' := by
        intro d hd hspace
        have hnot := (hapart d hd).2 (isAnyBreak_of_isBreak hbreak)
        rw [hspace] at hnot
        exact absurd hnot (by decide)
      have hparts : ∀ ab, linedParts indent ab (c :: t) = .white c :: linedParts indent true t := by
        intro ab
        rw [linedParts, if_pos hbreak]
      constructor
      · intro run hrun hfirst
        have hnil : run = [] := by
          by_contra hne
          exact absurd (hfirst hne c rfl) (by simp [hbreak])
        subst hnil
        rw [hparts, Part.textAfter, hbreaks _ (by simp) _ hahead]
        · rfl
        · simpa using ⟨hbreak, hc⟩
      · intro run hne hrun _
        rw [hparts, Part.textAfter, hbreaks _ (by simp) _ hahead]
        · simp
        · intro d hd
          rcases List.mem_append.mp hd with hd | hd
          · exact hrun d hd
          · rw [List.mem_singleton.mp hd]
            exact ⟨hbreak, hc⟩
    | false =>
      have hfalse : ¬isBreak c = true := by simp [hbreak]
      have hnil : Part.textAfter false [] (linedParts indent false t) = t :=
      hspaces [] (by simp) (by simp)
      constructor
      · intro run hrun _
        rw [linedParts, if_neg hfalse, pad, if_neg (by decide), List.nil_append]
        by_cases hspace : c = ' '
        · subst hspace
          have hahead : ∀ d ∈ t.head?, isBreak d = false := by
            intro d hd
            have hnot := (hapart d hd).1 rfl
            cases hd' : isBreak d with
            | false => rfl
            | true => rw [isAnyBreak_of_isBreak hd'] at hnot; exact hnot
          show Part.textAfter false (run ++ [' ']) (linedParts indent false t) = _
          rw [hspaces _ _ fun _ => hahead]
          · simp
          · intro d hd
            rcases List.mem_append.mp hd with hd | hd
            · exact hrun d hd
            · exact List.mem_singleton.mp hd
        · simp [quotedPart, hspace, Part.textAfter, Part.closeRun, foldRun_of_spaces hrun, hnil]
      · intro run hne hrun hfirst
        have hspace : c ≠ ' ' := hfirst c rfl
        rw [linedParts, if_neg hfalse, pad, if_pos rfl, textAfter_pad]
        simp [quotedPart, hspace, Part.textAfter, Part.closeRun, foldRun_of_breaks hne hrun, hnil]

theorem readSingleQuoted_written {indent : Nat} (hindent : 0 < indent) {t tail : Text}
    (hallowed : allowsSingleQuoted t = true) (hline : '\n' ∉ t) (htail : tail.head? ≠ some '\'') :
    readSingleQuoted (singleQuotedBody indent false t ++ '\'' :: tail) = .ok (t, tail) := by
  simp only [allowsSingleQuoted, needsEscapes, Bool.and_eq_true, Bool.not_eq_eq_eq_not,
    Bool.not_true, Bool.or_eq_false_iff, Bool.not_false] at hallowed
  obtain ⟨hbefore, hprintable, hbehind⟩ := hallowed
  have htext := (textAfter_linedParts indent (isChain_apart hbehind hbefore) hline).1 [] (by simp)
    (by simp)
  rw [readSingleQuoted, singleQuotedParts_written hindent hprintable htail, Except.map, Part.text,
    htext]
  rfl

end DiffBudget.Yaml
