import DiffBudget.Proofs.Yaml.Literal

/-!
# Characters of written scalars

Every written character prints. A key that stands in front of its colon is one line, of at most as
many characters as the scanner looks back.
-/
namespace DiffBudget.Yaml

/-! ## Styles -/

theorem style_cases (t : Text) :
    (Style.ofText t = .plain ∧ IsPlain t ∧ t ≠ []) ∨
      (Style.ofText t = .singleQuoted ∧ allowsSingleQuoted t = true ∧ '\n' ∉ t) ∨
        (Style.ofText t = .literal ∧ allowsBlock t = true ∧ '\n' ∈ t) ∨
          Style.ofText t = .doubleQuoted := by
  have hquoted : '\n' ∉ t →
      ((if allowsSingleQuoted t then Style.singleQuoted else .doubleQuoted) = .singleQuoted ∧
        allowsSingleQuoted t = true ∧ '\n' ∉ t) ∨
      (if allowsSingleQuoted t then Style.singleQuoted else .doubleQuoted) = .doubleQuoted := by
    intro hline
    split
    case isTrue h => exact .inl ⟨rfl, h, hline⟩
    case isFalse => exact .inr rfl
  unfold Style.ofText
  by_cases hswitch : switchWords.contains t = true
  · have hline : '\n' ∉ t := by
      have hnone : ∀ word ∈ switchWords, '\n' ∉ word := by decide
      exact hnone t (List.contains_iff_mem.mp hswitch)
    rw [if_pos hswitch]
    exact .inr ((hquoted hline).imp id .inr)
  · rw [if_neg hswitch]
    by_cases hline : '\n' ∈ t
    · rw [if_pos (by simpa using hline)]
      split
      case isTrue h => exact .inr (.inr (.inl ⟨rfl, h, hline⟩))
      case isFalse => exact .inr (.inr (.inr rfl))
    · rw [if_neg (by simpa using hline)]
      by_cases hambiguous : isAmbiguous t = true
      · rw [if_pos hambiguous]
        exact .inr ((hquoted hline).imp id .inr)
      · rw [if_neg hambiguous]
        split
        case isTrue h =>
          refine .inl ⟨rfl, isPlain_of_allowed h, ?_⟩
          rintro rfl
          exact hambiguous rfl
        case isFalse => exact .inr ((hquoted hline).imp id .inr)

theorem closeLine_of_isPlain {t : Text} (h : IsPlain t) (hne : t ≠ []) :
    closeLine t = t ++ ['\n'] := by
  rcases List.eq_nil_or_concat t with rfl | ⟨s, c, rfl⟩
  · exact absurd rfl hne
  · rw [List.concat_eq_append] at h ⊢
    refine closeLine_of_text s ?_
    have hline := h.line
    rw [List.any_append, Bool.or_eq_false_iff] at hline
    by_contra hc
    simp [isAnyBreak_of_isBreak (by simpa using hc)] at hline

/-! ## Characters that print -/

theorem isAllowed_of_isPrintable {c : Char} (h : isPrintable c = true) : isAllowed c = true := by
  simp only [isPrintable, isAllowed, Bool.or_eq_true, Bool.and_eq_true, beq_iff_eq, bne_iff_ne,
    decide_eq_true_eq] at h ⊢
  omega

theorem ne_of_isPrintable {c d : Char} (h : isPrintable c = true) (hd : isPrintable d = false) :
    c ≠ d := by
  rintro rfl
  rw [hd] at h
  cases h

def InLine (c : Char) : Prop := isPrintable c = true ∧ isBreak c = false

instance (c : Char) : Decidable (InLine c) := instDecidableAnd

theorem inLine_of_digits (d : Nat) : InLine (upperHex d) := by
  rcases Nat.lt_or_ge d 16 with h | h
  · have hdigits : ∀ d < 16, InLine (upperHex d) := by decide
    exact hdigits d h
  · have hnone : upperHex d = '0' := by
      have hlength : "0123456789ABCDEF".toList.length ≤ d := h
      rw [upperHex, List.getD_eq_getElem?_getD, List.getElem?_eq_none hlength]
      rfl
    rw [hnone]
    decide

theorem inLine_hexCode (width n : Nat) : ∀ c ∈ hexCode width n, InLine c := by
  induction width generalizing n with
  | zero => simp [hexCode_zero]
  | succ width ih =>
    intro c hc
    rw [hexCode_succ] at hc
    rcases List.mem_append.mp hc with hc | hc
    · exact ih _ c hc
    · rw [List.mem_singleton.mp hc]
      exact inLine_of_digits _

theorem inLine_escapeCode (c : Char) : ∀ d ∈ escapeCode c, InLine d := by
  intro d hd
  unfold escapeCode at hd
  dsimp only at hd
  split at hd
  · rcases List.mem_cons.mp hd with rfl | hd
    · decide
    · exact inLine_hexCode _ _ d hd
  · split at hd
    · rcases List.mem_cons.mp hd with rfl | hd
      · decide
      · exact inLine_hexCode _ _ d hd
    · rcases List.mem_cons.mp hd with rfl | hd
      · decide
      · exact inLine_hexCode _ _ d hd

theorem inLine_escapeLetter {c letter : Char} (h : escapeLetter? c = some letter) :
    InLine letter := by
  unfold escapeLetter? at h
  split at h <;> cases h <;> decide

theorem inLine_doubleQuotedChar (c : Char) : ∀ d ∈ doubleQuotedChar c, InLine d := by
  intro d hd
  unfold doubleQuotedChar at hd
  cases hc : mustEscape c with
  | false =>
    obtain ⟨hprintable, hbreak, -⟩ := not_mustEscape hc
    simp only [hc, Bool.false_eq_true, if_false, List.mem_singleton] at hd
    exact hd ▸ ⟨hprintable, hbreak⟩
  | true =>
    rw [hc, if_pos rfl] at hd
    rcases List.mem_cons.mp hd with rfl | hd
    · decide
    · cases hletter : escapeLetter? c with
      | none =>
        rw [hletter] at hd
        exact inLine_escapeCode c d hd
      | some letter =>
        rw [hletter] at hd
        rw [List.mem_singleton.mp hd]
        exact inLine_escapeLetter hletter

theorem two_le_utf8Size {c : Char} (h : 127 < c.toNat) : 2 ≤ c.utf8Size := by
  have hpos := c.utf8Size_pos
  have hone : c.utf8Size ≠ 1 := by
    intro hsize
    rw [Char.utf8Size_eq_one_iff, UInt32.le_iff_toNat_le] at hsize
    have hval : c.val.toNat = c.toNat := rfl
    have hbound : (127 : UInt32).toNat = 127 := rfl
    omega
  omega

theorem three_le_utf8Size {c : Char} (h : 2047 < c.toNat) : 3 ≤ c.utf8Size := by
  have hlow := two_le_utf8Size (show 127 < c.toNat by omega)
  have htwo : c.utf8Size ≠ 2 := by
    intro hsize
    rw [Char.utf8Size_eq_two_iff, UInt32.le_iff_toNat_le] at hsize
    have hval : c.val.toNat = c.toNat := rfl
    have hbound : (0x7ff : UInt32).toNat = 2047 := rfl
    omega
  omega

theorem length_escapeCode_le (c : Char) : (escapeCode c).length + 1 ≤ 4 * c.utf8Size := by
  have hpos := c.utf8Size_pos
  unfold escapeCode
  dsimp only
  split
  · rw [List.length_cons, length_hexCode]
    omega
  · next h =>
    have htwo := two_le_utf8Size (show 127 < c.toNat by omega)
    split
    · rw [List.length_cons, length_hexCode]
      omega
    · next h' =>
      have hthree := three_le_utf8Size (show 2047 < c.toNat by omega)
      rw [List.length_cons, length_hexCode]
      omega

theorem length_doubleQuotedChar_le (c : Char) : (doubleQuotedChar c).length ≤ 4 * c.utf8Size := by
  have hsize := c.utf8Size_pos
  unfold doubleQuotedChar
  split
  · cases hletter : escapeLetter? c with
    | none => simpa using length_escapeCode_le c
    | some letter =>
      simp only [Option.map_some, Option.getD_some, List.length_cons, List.length_nil]
      omega
  · simp only [List.length_cons, List.length_nil]
    omega

theorem prints_spaces (n : Nat) : (spaces n).all isPrintable = true := by
  simp [spaces, isPrintable]

theorem prints_singleQuotedBody (indent : Nat) (afterBreak : Bool) {t : Text}
    (h : t.all isPrintable = true) :
    (singleQuotedBody indent afterBreak t).all isPrintable = true := by
  have hpad : ∀ b : Bool, (if b then spaces indent else []).all isPrintable = true := by
    intro b
    cases b with
    | true => exact prints_spaces indent
    | false => rfl
  induction t generalizing afterBreak with
  | nil => exact hpad afterBreak
  | cons c t ih =>
    rw [List.all_cons, Bool.and_eq_true] at h
    rw [singleQuotedBody]
    split
    · rw [List.all_cons, h.1, ih true h.2, Bool.and_self]
    · rw [List.all_append, List.all_append, hpad, ih false h.2]
      split
      · rfl
      · simp [h.1]

theorem prints_literalBody (indent : Nat) (afterBreak : Bool) {t : Text}
    (h : t.all isPrintable = true) : (literalBody indent afterBreak t).all isPrintable = true := by
  induction t generalizing afterBreak with
  | nil => rfl
  | cons c t ih =>
    rw [List.all_cons, Bool.and_eq_true] at h
    rw [literalBody]
    split
    · rw [List.all_cons, h.1, ih true h.2, Bool.and_self]
    · rw [List.all_append, List.all_cons, h.1, ih false h.2]
      split
      · rw [prints_spaces]
        rfl
      · rfl

theorem prints_hints (t : Text) :
    (indentationHint t ++ chompingHint t).all isPrintable = true := by
  have hindent : (indentationHint t).all isPrintable = true := by
    unfold indentationHint
    split
    · split <;> rfl
    · rfl
  have hchomp : (chompingHint t).all isPrintable = true := by
    unfold chompingHint
    split
    · split
      · rfl
      · split <;> rfl
    · split <;> rfl
    · rfl
  rw [List.all_append, hindent, hchomp, Bool.and_self]

theorem prints_of_allowsSingleQuoted {t : Text} (h : allowsSingleQuoted t = true) :
    t.all isPrintable = true := by
  simp only [allowsSingleQuoted, needsEscapes, Bool.and_eq_true, Bool.not_eq_true',
    Bool.or_eq_false_iff, Bool.not_eq_false'] at h
  exact h.2.1

theorem prints_of_allowsBlock {t : Text} (h : allowsBlock t = true) :
    t.all isPrintable = true := by
  simp only [allowsBlock, needsEscapes, Bool.and_eq_true, Bool.not_eq_true',
    Bool.or_eq_false_iff, Bool.not_eq_false'] at h
  exact h.2.1

theorem prints_doubleQuoted (t : Text) : (doubleQuoted t).all isPrintable = true := by
  have hbody : (t.flatMap doubleQuotedChar).all isPrintable = true := by
    rw [List.all_flatMap, List.all_eq_true]
    intro c _
    rw [List.all_eq_true]
    exact fun d hd => (inLine_doubleQuotedChar c d hd).1
  rw [doubleQuoted, List.all_append, List.all_cons, hbody]
  rfl

theorem prints_writeScalar (indent : Nat) (t : Text) :
    (writeScalar indent t).all isPrintable = true := by
  rcases style_cases t with ⟨h, hplain, -⟩ | ⟨h, hallowed, -⟩ | ⟨h, hallowed, -⟩ | h
  all_goals rw [writeScalar, h]
  · exact hplain.printable
  · show (singleQuoted indent t).all isPrintable = true
    rw [singleQuoted, List.all_append, List.all_cons,
      prints_singleQuotedBody _ _ (prints_of_allowsSingleQuoted hallowed)]
    rfl
  · show (literal indent t).all isPrintable = true
    rw [literal, List.all_append, List.cons_append, List.all_cons, List.all_cons, prints_hints,
      prints_literalBody _ _ (prints_of_allowsBlock hallowed)]
    rfl
  · exact prints_doubleQuoted t

theorem prints_closeLine {t : Text} (h : t.all isPrintable = true) :
    (closeLine t).all isPrintable = true := by
  rw [closeLine]
  split
  · exact h
  · rw [List.all_append, h]
    rfl

/-! ## Keys in front of their colons -/

theorem singleQuotedBody_line (indent : Nat) {t : Text} (h : ∀ c ∈ t, isBreak c = false) :
    (∀ c ∈ singleQuotedBody indent false t, isBreak c = false) ∧
      (singleQuotedBody indent false t).length ≤ 2 * Text.byteCount t := by
  induction t with
  | nil => simp [singleQuotedBody]
  | cons c t ih =>
    obtain ⟨hline, hlength⟩ := ih fun d hd => h d (List.mem_cons_of_mem c hd)
    have hc : isBreak c = false := h c List.mem_cons_self
    have hsize := c.utf8Size_pos
    rw [singleQuotedBody, if_neg (by simp [hc])]
    simp only [Text.byteCount, sumOf_cons] at hlength ⊢
    constructor
    · intro d hd
      simp only [Bool.false_eq_true, if_false, List.nil_append, List.mem_append] at hd
      rcases hd with hd | hd
      · split at hd
        · have hquote : d = '\'' := by simpa using hd
          rw [hquote]
          rfl
        · rw [List.mem_singleton.mp hd]
          exact hc
      · exact hline d hd
    · simp only [Bool.false_eq_true, if_false, List.nil_append, List.length_append]
      split <;> simp only [List.length_cons, List.length_nil] <;> omega

theorem length_flatMap_doubleQuotedChar_le (t : Text) :
    (t.flatMap doubleQuotedChar).length ≤ 4 * Text.byteCount t := by
  induction t with
  | nil => simp
  | cons c t ih =>
    have hc := length_doubleQuotedChar_le c
    simp only [Text.byteCount, sumOf_cons, List.flatMap_cons, List.length_append] at ih ⊢
    omega

theorem length_le_byteCount (t : Text) : t.length ≤ Text.byteCount t := by
  induction t with
  | nil => simp
  | cons c t ih =>
    have hsize := c.utf8Size_pos
    simp only [Text.byteCount, sumOf_cons, List.length_cons] at ih ⊢
    omega

theorem isBreak_of_isSimpleKey {t : Text} (h : isSimpleKey t = true) :
    ∀ c ∈ t, isBreak c = false := by
  intro c hc
  simp only [isSimpleKey, Bool.and_eq_true, Bool.not_eq_true', List.any_eq_false] at h
  by_contra hbreak
  exact h.1 c hc (isAnyBreak_of_isBreak (by simpa using hbreak))

theorem writeScalar_key (indent : Nat) {t : Text} (h : isSimpleKey t = true) :
    (∀ c ∈ writeScalar indent t, isBreak c = false) ∧ (writeScalar indent t).length ≤ 1024 := by
  have hline := isBreak_of_isSimpleKey h
  have hbytes : Text.byteCount t ≤ 128 := by
    simp only [isSimpleKey, Bool.and_eq_true, decide_eq_true_eq] at h
    exact h.2
  rcases style_cases t with ⟨hstyle, -⟩ | ⟨hstyle, -⟩ | ⟨-, -, hbreak⟩ | hstyle
  · have hlength := length_le_byteCount t
    rw [writeScalar, hstyle]
    refine ⟨hline, ?_⟩
    show t.length ≤ 1024
    omega
  · obtain ⟨hbody, hlength⟩ := singleQuotedBody_line indent hline
    rw [writeScalar, hstyle]
    constructor
    · intro c hc
      simp only [singleQuoted, List.mem_append, List.mem_cons, List.not_mem_nil, or_false] at hc
      rcases hc with (rfl | hc) | rfl
      · rfl
      · exact hbody c hc
      · rfl
    · simp only [singleQuoted, List.length_append, List.length_cons, List.length_nil]
      omega
  · exact absurd (hline _ hbreak) (by decide)
  · have hlength := length_flatMap_doubleQuotedChar_le t
    rw [writeScalar, hstyle]
    constructor
    · intro c hc
      simp only [doubleQuoted, List.mem_append, List.mem_cons, List.not_mem_nil, or_false,
        List.mem_flatMap] at hc
      rcases hc with (rfl | ⟨d, -, hc⟩) | rfl
      · rfl
      · exact (inLine_doubleQuotedChar d c hc).2
      · rfl
    · simp only [doubleQuoted, List.length_append, List.length_cons, List.length_nil]
      omega

end DiffBudget.Yaml
