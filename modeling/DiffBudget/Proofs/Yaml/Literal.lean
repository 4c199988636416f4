import DiffBudget.Proofs.Yaml.Plain
import DiffBudget.Yaml.Block

/-!
# Literal blocks are read back

A text is a run of lines, each with its break. The block indents those that are not empty; the
reader drops the indentation and keeps the breaks, except at the end, where the header says what
stays of them.
-/
namespace DiffBudget.Yaml

/-! ## Lines with their breaks -/

def IsRawLine (l : Text × Char) : Prop := (∀ c ∈ l.1, isBreak c = false) ∧ isBreak l.2 = true

def rawText (ls : List (Text × Char)) : Text := ls.flatMap fun l => l.1 ++ [l.2]

@[simp] theorem rawText_nil : rawText [] = [] := rfl

theorem rawText_cons (l : Text × Char) (ls : List (Text × Char)) :
    rawText (l :: ls) = l.1 ++ l.2 :: rawText ls := by
  simp [rawText]

theorem rawText_append (ls ls' : List (Text × Char)) :
    rawText (ls ++ ls') = rawText ls ++ rawText ls' := by
  simp [rawText]

theorem exists_rawLines {t : Text} (h : ∀ c ∈ t.getLast?, isBreak c = true) :
    ∃ ls, t = rawText ls ∧ ∀ l ∈ ls, IsRawLine l := by
  induction t with
  | nil => exact ⟨[], rfl, by simp⟩
  | cons c t ih =>
    cases hc : isBreak c with
    | true =>
      obtain ⟨ls, rfl, hls⟩ := ih (by cases t <;> simp_all)
      refine ⟨([], c) :: ls, by simp [rawText_cons], ?_⟩
      intro l hl
      rcases List.mem_cons.mp hl with rfl | hl
      · exact ⟨by simp, hc⟩
      · exact hls l hl
    | false =>
      have hne : t ≠ [] := by
        rintro rfl
        simp [hc] at h
      obtain ⟨ls, rfl, hls⟩ := ih (by cases t <;> simp_all)
      cases ls with
      | nil => exact absurd rfl hne
      | cons l ls =>
        obtain ⟨hcontent, hbreak⟩ := hls l List.mem_cons_self
        refine ⟨(c :: l.1, l.2) :: ls, by simp [rawText_cons], ?_⟩
        intro l' hl'
        rcases List.mem_cons.mp hl' with rfl | hl'
        · refine ⟨?_, hbreak⟩
          intro d hd
          rcases List.mem_cons.mp hd with rfl | hd
          · exact hc
          · exact hcontent d hd
        · exact hls l' (List.mem_cons_of_mem l hl')

/-! ## The written block -/

def indented (indent : Nat) (content : Text) : Text :=
  if content.isEmpty then [] else spaces indent ++ content

theorem literalBody_inside (indent : Nat) {content : Text} (h : ∀ c ∈ content, isBreak c = false)
    {b : Char} (hb : isBreak b = true) (t : Text) :
    literalBody indent false (content ++ b :: t) = content ++ b :: literalBody indent true t := by
  induction content with
  | nil => simp [literalBody, hb]
  | cons c content ih =>
    have hc : isBreak c = false := h c List.mem_cons_self
    simp [literalBody, hc, ih fun d hd => h d (List.mem_cons_of_mem c hd)]

theorem literalBody_line {indent : Nat} {l : Text × Char} (h : IsRawLine l) (t : Text) :
    literalBody indent true (l.1 ++ l.2 :: t) =
      indented indent l.1 ++ l.2 :: literalBody indent true t := by
  obtain ⟨content, b⟩ := l
  obtain ⟨hcontent, hb⟩ := h
  cases content with
  | nil => simp only [List.nil_append, literalBody, indented]; simp [hb]
  | cons c content =>
    have hc : isBreak c = false := hcontent c List.mem_cons_self
    have hinside := literalBody_inside indent
      (fun d hd => hcontent d (List.mem_cons_of_mem c hd)) hb t
    simp [literalBody, hc, hinside, indented]

theorem literalBody_rawText (indent : Nat) {ls : List (Text × Char)} (h : ∀ l ∈ ls, IsRawLine l) :
    literalBody indent true (rawText ls) =
      rawText (ls.map fun l => (indented indent l.1, l.2)) := by
  induction ls with
  | nil => rfl
  | cons l ls ih =>
    rw [rawText_cons, literalBody_line (h l List.mem_cons_self),
      ih fun l' hl' => h l' (List.mem_cons_of_mem l hl'), List.map_cons, rawText_cons]

/-- A break at the end may be written before or behind the block. -/
theorem literalBody_concat (indent : Nat) (afterBreak : Bool) (t : Text) {b : Char}
    (hb : isBreak b = true) :
    literalBody indent afterBreak (t ++ [b]) = literalBody indent afterBreak t ++ [b] := by
  induction t generalizing afterBreak with
  | nil => simp [literalBody, hb]
  | cons c t ih =>
    rw [List.cons_append, literalBody, literalBody]
    split
    · rw [ih, List.cons_append]
    · rw [ih, List.append_assoc, List.cons_append]

/-! ## Reading the lines -/

theorem ofText_line {content : Text} (h : ∀ c ∈ content, isBreak c = false) {b : Char}
    (hb : isBreak b = true) (t : Text) :
    StreamLine.ofText (content ++ b :: t) = ⟨content, some b⟩ :: StreamLine.ofText t := by
  induction content with
  | nil => simp [StreamLine.ofText, hb]
  | cons c content ih =>
    have hc : isBreak c = false := h c List.mem_cons_self
    simp [StreamLine.ofText, hc, ih fun d hd => h d (List.mem_cons_of_mem c hd)]

theorem ofText_rawText {ls : List (Text × Char)} (h : ∀ l ∈ ls, IsRawLine l) (t : Text) :
    StreamLine.ofText (rawText ls ++ t) =
      ls.map (fun l => ⟨l.1, some l.2⟩) ++ StreamLine.ofText t := by
  induction ls with
  | nil => rfl
  | cons l ls ih =>
    have hl := h l List.mem_cons_self
    rw [rawText_cons, List.append_assoc, List.cons_append, ofText_line hl.1 hl.2,
      ih fun l' hl' => h l' (List.mem_cons_of_mem l hl')]
    rfl

theorem dropSpaces_spaces (n : Nat) (t : Text) : dropSpaces n (spaces n ++ t) = (n, t) := by
  induction n with
  | zero => simp [dropSpaces, spaces]
  | succ n ih =>
    show dropSpaces (n + 1) (' ' :: (spaces n ++ t)) = _
    rw [dropSpaces, ih]

def blockLine (l : Text × Char) : BlockLine :=
  if l.1.isEmpty then .empty l.2 else .filled l.1 (some l.2)

theorem blockLines_indented (depth : Nat) (l : Text × Char) (ls : List StreamLine) :
    blockLines depth (⟨indented depth l.1, some l.2⟩ :: ls) =
      (blockLines depth ls).map fun p => (blockLine l :: p.1, p.2) := by
  obtain ⟨content, b⟩ := l
  cases content with
  | nil =>
    cases depth <;> simp [blockLines, indented, dropSpaces, blockLine]
  | cons c content =>
    simp only [blockLines, indented, List.isEmpty_cons, Bool.false_eq_true, if_false,
      dropSpaces_spaces, beq_self_eq_true, if_true, blockLine]

theorem ofText_cons {c : Char} (hc : isBreak c = false) (t : Text) :
    ∃ content ending ls, StreamLine.ofText (c :: t) = ⟨c :: content, ending⟩ :: ls := by
  rw [StreamLine.ofText, if_neg (by simp [hc])]
  cases StreamLine.ofText t with
  | nil => exact ⟨_, _, _, rfl⟩
  | cons l ls => exact ⟨_, _, _, rfl⟩

theorem ofText_spaces (n : Nat) {t content : Text} {ending : Option Char} {ls : List StreamLine}
    (h : StreamLine.ofText t = ⟨content, ending⟩ :: ls) :
    StreamLine.ofText (spaces n ++ t) = ⟨spaces n ++ content, ending⟩ :: ls := by
  induction n with
  | zero => exact h
  | succ n ih =>
    show StreamLine.ofText (' ' :: (spaces n ++ t)) = _
    rw [StreamLine.ofText, if_neg (by decide), ih]
    rfl

theorem dropSpaces_stop {n depth : Nat} (h : n ≤ depth) {c : Char} (hc : c ≠ ' ') (t : Text) :
    dropSpaces depth (spaces n ++ c :: t) = (n, c :: t) := by
  induction n generalizing depth with
  | zero => cases depth <;> simp [dropSpaces, spaces, hc]
  | succ n ih =>
    obtain ⟨depth, rfl⟩ := Nat.exists_eq_add_one.mpr (Nat.zero_lt_of_lt h)
    show dropSpaces (depth + 1) (' ' :: (spaces n ++ c :: t)) = _
    rw [dropSpaces, ih (Nat.le_of_succ_le_succ h)]

theorem ofText_spaces_end (n : Nat) :
    StreamLine.ofText (spaces (n + 1)) = [⟨spaces (n + 1), none⟩] := by
  induction n with
  | zero => rfl
  | succ n ih =>
    show StreamLine.ofText (' ' :: spaces (n + 1)) = _
    rw [StreamLine.ofText, if_neg (by decide), ih]
    rfl

theorem dropSpaces_end {n depth : Nat} (h : n ≤ depth) : dropSpaces depth (spaces n) = (n, []) := by
  induction n generalizing depth with
  | zero => cases depth <;> rfl
  | succ n ih =>
    obtain ⟨depth, rfl⟩ := Nat.exists_eq_add_one.mpr (Nat.zero_lt_of_lt h)
    show dropSpaces (depth + 1) (' ' :: spaces n) = _
    rw [dropSpaces, ih (Nat.le_of_succ_le_succ h)]

theorem blockLines_end {word : Text} (hword : IsWordStart word) {n depth : Nat} (h : n < depth) :
    blockLines depth (StreamLine.ofText (spaces n ++ word)) = .ok ([], word) := by
  cases word with
  | nil =>
    rw [List.append_nil]
    cases n with
    | zero => rfl
    | succ n =>
      rw [ofText_spaces_end]
      simp only [blockLines, dropSpaces_end (Nat.le_of_lt h)]
  | cons c t =>
    obtain ⟨hwhite, -⟩ := hword c rfl
    simp only [isWhite, isGap, Bool.or_eq_false_iff, beq_eq_false_iff_ne] at hwhite
    obtain ⟨⟨hspace, htab⟩, hbreak⟩ := hwhite
    obtain ⟨content, ending, ls, hline⟩ := ofText_cons hbreak t
    have htext := StreamLine.toText_ofText (c :: t)
    rw [hline] at htext
    have hcolumn : (n == depth) = false := by simp [Nat.ne_of_lt h]
    rw [ofText_spaces n hline]
    simp only [blockLines, dropSpaces_stop (Nat.le_of_lt h) hspace, hcolumn, htab, htext,
      Bool.false_eq_true, if_false]

/-! ## The text of the lines -/

theorem blockText_keep (g : BlockGap) (ls : List (Text × Char)) :
    blockText false .keep g (ls.map blockLine) = g.line ++ g.empty ++ rawText ls := by
  induction ls generalizing g with
  | nil => simp [blockText, BlockGap.atEnd]
  | cons l ls ih =>
    obtain ⟨content, b⟩ := l
    cases content with
    | nil => simp [blockLine, blockText, ih, rawText_cons]
    | cons c content => simp [blockLine, blockText, BlockGap.before, ih, rawText_cons]

theorem blockText_concat (chomping : Chomping) (g : BlockGap) (ls : List (Text × Char))
    {content : Text} (hcontent : content ≠ []) (b : Char) :
    blockText false chomping g ((ls ++ [(content, b)]).map blockLine) =
      g.line ++ g.empty ++ rawText ls ++ content ++
        BlockGap.atEnd ⟨[b], [], startsWhite content⟩ chomping := by
  induction ls generalizing g with
  | nil =>
    have hempty : content.isEmpty = false := by simp [hcontent]
    simp [blockLine, hempty, blockText, BlockGap.before]
  | cons l ls ih =>
    obtain ⟨first, d⟩ := l
    rw [List.cons_append, List.map_cons]
    cases first with
    | nil =>
      rw [show blockLine ([], d) = .empty d from rfl, blockText, ih]
      simp [rawText_cons]
    | cons c first =>
      rw [show blockLine (c :: first, d) = .filled (c :: first) (some d) from rfl, blockText, ih]
      simp [rawText_cons, BlockGap.before]

/-! ## The whole block -/

def toldIncrement (t : Text) : Option Nat := if (indentationHint t).isEmpty then none else some 2

def toldChomping (t : Text) : Chomping :=
  match chompingHint t with
  | ['-'] => .strip
  | ['+'] => .keep
  | _ => .clip

theorem toldIncrement_cases (t : Text) : toldIncrement t = some 2 ∨ toldIncrement t = none := by
  unfold toldIncrement
  split <;> simp

theorem read_header (t rest : Text) :
    BlockHeader.read (indentationHint t ++ chompingHint t ++ '\n' :: rest) =
      (⟨toldChomping t, toldIncrement t⟩, '\n' :: rest) := by
  have hindent : indentationHint t = [] ∨ indentationHint t = ['2'] := by
    unfold indentationHint
    split
    · split <;> simp
    · exact .inl rfl
  have hchomp : chompingHint t = [] ∨ chompingHint t = ['-'] ∨ chompingHint t = ['+'] := by
    unfold chompingHint
    split
    · split
      · simp
      · split <;> simp
    · split <;> simp
    · simp
  unfold toldChomping toldIncrement
  rcases hindent with h | h <;> rcases hchomp with h' | h' | h' <;> rw [h, h'] <;> rfl

theorem last_rawText {ls : List (Text × Char)} (h : ∀ l ∈ ls, IsRawLine l) {s : Text} {c : Char}
    (hs : rawText ls = s ++ [c]) : isBreak c = true := by
  rcases List.eq_nil_or_concat ls with rfl | ⟨ls, l, rfl⟩
  · simp at hs
  · have hlast := h l (by simp)
    rw [List.concat_eq_append, rawText_append, rawText_cons, rawText_nil, ← List.append_assoc] at hs
    have hc := (List.append_inj' hs rfl).2
    simp only [List.cons.injEq, and_true] at hc
    exact hc ▸ hlast.2

theorem exists_last_rawLine {ls : List (Text × Char)} (hls : ∀ l ∈ ls, IsRawLine l) {s : Text}
    {d b : Char} (h : rawText ls = s ++ [d] ++ [b]) (hd : isBreak d = false) :
    ∃ ls' content,
      ls = ls' ++ [(content, b)] ∧ content ≠ [] ∧ rawText ls' ++ content = s ++ [d] := by
  rcases List.eq_nil_or_concat ls with rfl | ⟨ls, ⟨content, e⟩, rfl⟩
  · simp at h
  · rw [List.concat_eq_append] at h hls ⊢
    rw [rawText_append, rawText_cons, rawText_nil, ← List.append_assoc] at h
    obtain ⟨htext, hbreak⟩ := List.append_inj' h rfl
    simp only [List.cons.injEq, and_true] at hbreak
    subst hbreak
    refine ⟨ls, content, rfl, ?_, htext⟩
    rintro rfl
    rw [List.append_nil] at htext
    have hlast := last_rawText (fun l hl => hls l (List.mem_append_left _ hl)) htext
    rw [hd] at hlast
    cases hlast

theorem toldChomping_of_text {s : Text} {c : Char} (hc : isBreak c = false) :
    toldChomping (s ++ [c]) = .strip := by
  rcases List.eq_nil_or_concat s with rfl | ⟨s, d, rfl⟩ <;>
    simp [toldChomping, chompingHint, hc]

theorem toldChomping_of_breaks {s : Text} {d c : Char} (hd : isBreak d = true)
    (hc : isBreak c = true) : toldChomping (s ++ [d] ++ [c]) = .keep := by
  simp [toldChomping, chompingHint, hd, hc]

theorem toldChomping_of_break {c : Char} (hc : isBreak c = true) :
    toldChomping [c] = .keep := by
  simp [toldChomping, chompingHint, hc]

theorem toldChomping_of_line {s : Text} {d c : Char} (hd : isBreak d = false)
    (hc : isBreak c = true) : toldChomping (s ++ [d] ++ [c]) = .clip := by
  simp [toldChomping, chompingHint, hd, hc]

theorem closeLine_of_break (s : Text) {c : Char} (hc : isBreak c = true) :
    closeLine (s ++ [c]) = s ++ [c] := by
  simp [closeLine, hc]

theorem closeLine_of_text (s : Text) {c : Char} (hc : isBreak c = false) :
    closeLine (s ++ [c]) = s ++ [c] ++ ['\n'] := by
  simp [closeLine, hc]

theorem exists_closed (t : Text) : ∃ s b, closeLine t = s ++ [b] ∧ isBreak b = true := by
  rcases List.eq_nil_or_concat t with rfl | ⟨s, c, rfl⟩
  · exact ⟨[], '\n', rfl, rfl⟩
  · rw [List.concat_eq_append]
    cases hc : isBreak c with
    | true => exact ⟨s, c, closeLine_of_break s hc, hc⟩
    | false => exact ⟨s ++ [c], '\n', closeLine_of_text s hc, rfl⟩

theorem closeLine_append (front : Text) {t : Text} (ht : t ≠ []) :
    closeLine (front ++ t) = front ++ closeLine t := by
  rcases List.eq_nil_or_concat t with rfl | ⟨s, c, rfl⟩
  · exact absurd rfl ht
  · rw [List.concat_eq_append, ← List.append_assoc]
    cases hc : isBreak c with
    | true => rw [closeLine_of_break _ hc, closeLine_of_break _ hc, List.append_assoc]
    | false => rw [closeLine_of_text _ hc, closeLine_of_text _ hc, ← List.append_assoc,
        ← List.append_assoc]

theorem exists_literalBody_text (indent : Nat) (afterBreak : Bool) (s : Text) {c : Char}
    (hc : isBreak c = false) : ∃ w, literalBody indent afterBreak (s ++ [c]) = w ++ [c] := by
  induction s generalizing afterBreak with
  | nil =>
    refine ⟨if afterBreak then spaces indent else [], ?_⟩
    simp [literalBody, hc]
  | cons d s ih =>
    rw [List.cons_append, literalBody]
    split
    · obtain ⟨w, hw⟩ := ih true
      exact ⟨d :: w, by rw [hw]; rfl⟩
    · obtain ⟨w, hw⟩ := ih false
      refine ⟨(if afterBreak then spaces indent else []) ++ d :: w, ?_⟩
      rw [hw]
      simp

theorem closeLine_literalBody (indent : Nat) (afterBreak : Bool) {t : Text} (ht : t ≠ []) :
    closeLine (literalBody indent afterBreak t) = literalBody indent afterBreak (closeLine t) := by
  rcases List.eq_nil_or_concat t with rfl | ⟨s, c, rfl⟩
  · exact absurd rfl ht
  · rw [List.concat_eq_append]
    cases hc : isBreak c with
    | true =>
      rw [closeLine_of_break s hc, literalBody_concat _ _ _ hc, closeLine_of_break _ hc]
    | false =>
      obtain ⟨w, hw⟩ := exists_literalBody_text indent afterBreak s hc
      rw [closeLine_of_text s hc, literalBody_concat _ _ (s ++ [c]) (by rfl), hw,
        closeLine_of_text _ hc]

theorem literalBody_ne_nil (indent : Nat) (afterBreak : Bool) {t : Text} (ht : t ≠ []) :
    literalBody indent afterBreak t ≠ [] := by
  cases t with
  | nil => exact absurd rfl ht
  | cons c t =>
    rw [literalBody]
    split <;> simp

theorem closeLine_literal (indent : Nat) {t : Text} (ht : t ≠ []) :
    closeLine (literal indent t) =
      '|' :: (indentationHint t ++ chompingHint t ++
        '\n' :: literalBody indent true (closeLine t)) := by
  have hsplit : literal indent t =
      ('|' :: (indentationHint t ++ chompingHint t ++ ['\n'])) ++ literalBody indent true t := by
    simp [literal]
  rw [hsplit, closeLine_append _ (literalBody_ne_nil indent true ht), closeLine_literalBody _ _ ht]
  simp

theorem blockText_closed {t : Text} (hne : t ≠ []) {ls : List (Text × Char)}
    (h : closeLine t = rawText ls) (hls : ∀ l ∈ ls, IsRawLine l) :
    blockText false (toldChomping t) {} (ls.map blockLine) = t := by
  rcases List.eq_nil_or_concat t with rfl | ⟨s, c, rfl⟩
  · exact absurd rfl hne
  rw [List.concat_eq_append] at h ⊢
  cases hc : isBreak c with
  | false =>
    rw [closeLine_of_text s hc] at h
    obtain ⟨ls', content, rfl, hcontent, htext⟩ := exists_last_rawLine hls h.symm hc
    rw [toldChomping_of_text hc, blockText_concat _ _ _ hcontent]
    simp [BlockGap.atEnd, htext]
  | true =>
    rw [closeLine_of_break s hc] at h
    rcases List.eq_nil_or_concat s with rfl | ⟨s, d, rfl⟩
    · rw [List.nil_append] at h ⊢
      rw [toldChomping_of_break hc, blockText_keep, ← h]
      rfl
    · rw [List.concat_eq_append] at h ⊢
      cases hd : isBreak d with
      | true =>
        rw [toldChomping_of_breaks hd hc, blockText_keep, ← h]
        rfl
      | false =>
        obtain ⟨ls', content, rfl, hcontent, htext⟩ := exists_last_rawLine hls h.symm hd
        rw [toldChomping_of_line hd hc, blockText_concat _ _ _ hcontent]
        simp [BlockGap.atEnd, ← htext]

/-! ## Reading the block -/

theorem leadingSpaces_spaces (n : Nat) {c : Char} (hc : c ≠ ' ') (content : Text) :
    leadingSpaces (spaces n ++ c :: content) = n := by
  have hstop : (c == ' ') = false := beq_eq_false_iff_ne.mpr hc
  have hall : ∀ d ∈ spaces n, (d == ' ') = true := by
    intro d hd
    rw [List.eq_of_mem_replicate hd]
    rfl
  rw [leadingSpaces, List.takeWhile_append_of_pos hall, List.takeWhile_cons, hstop]
  simp [spaces]

theorem foundDepth_indented {indent : Nat} {c : Char} {content : Text} (hspace : c ≠ ' ')
    (htab : c ≠ '\t') (ending : Option Char) (ls : List StreamLine) :
    foundDepth (⟨spaces indent ++ c :: content, ending⟩ :: ls) = .ok indent := by
  have hdrop : (spaces indent ++ c :: content).drop indent = c :: content := by
    simp [spaces]
  simp only [foundDepth, leadingSpaces_spaces indent hspace, hdrop]
  split
  · simp_all
  · simp_all
  · rfl

theorem blockLines_rawText {depth : Nat} {ls : List (Text × Char)} (h : ∀ l ∈ ls, IsRawLine l)
    {word : Text} (hword : IsWordStart word) {n : Nat} (hn : n < depth) :
    blockLines depth (ls.map (fun l => ⟨indented depth l.1, some l.2⟩) ++
      StreamLine.ofText (spaces n ++ word)) = .ok (ls.map blockLine, word) := by
  induction ls with
  | nil => exact blockLines_end hword hn
  | cons l ls ih =>
    rw [List.map_cons, List.cons_append, blockLines_indented,
      ih fun l' hl' => h l' (List.mem_cons_of_mem l hl')]
    rfl

theorem isRawLine_indented {depth : Nat} {l : Text × Char} (h : IsRawLine l) :
    IsRawLine (indented depth l.1, l.2) := by
  refine ⟨?_, h.2⟩
  intro c hc
  simp only [indented] at hc
  split at hc
  · simp at hc
  · rcases List.mem_append.mp hc with hc | hc
    · rw [List.eq_of_mem_replicate hc]
      rfl
    · exact h.1 c hc

theorem foundDepth_written {t : Text} (hne : t ≠ []) (hhint : toldIncrement t = none)
    (hprintable : t.all isPrintable = true) {ls : List (Text × Char)} {more : List StreamLine}
    (h : closeLine t = rawText ls) (hls : ∀ l ∈ ls, IsRawLine l) (depth : Nat) :
    foundDepth (ls.map (fun l => ⟨indented depth l.1, some l.2⟩) ++ more) = .ok depth := by
  cases t with
  | nil => exact absurd rfl hne
  | cons c t =>
    have hfirst : isSpace c = false ∧ isBreak c = false := by
      by_cases hc : (isSpace c || isBreak c) = true
      · simp [toldIncrement, indentationHint, hc] at hhint
      · simpa using hc
    have hspace : c ≠ ' ' := by simpa [isSpace] using hfirst.1
    have htab : c ≠ '\t' := by
      rintro rfl
      simp [isPrintable] at hprintable
    cases ls with
    | nil =>
      rw [closeLine] at h
      split at h <;> simp at h
    | cons l ls =>
      obtain ⟨content, b⟩ := l
      have hb := (hls _ List.mem_cons_self).2
      have hcons : ∃ s, closeLine (c :: t) = c :: s := by
        rw [closeLine]
        split <;> simp
      obtain ⟨s, hs⟩ := hcons
      rw [hs, rawText_cons] at h
      cases content with
      | nil =>
        simp only [List.nil_append, List.cons.injEq] at h
        rw [← h.1, hfirst.2] at hb
        cases hb
      | cons d content =>
        simp only [List.cons_append, List.cons.injEq] at h
        rw [← h.1]
        exact foundDepth_indented hspace htab _ _

theorem exists_closedLines (t : Text) :
    ∃ ls, closeLine t = rawText ls ∧ ∀ l ∈ ls, IsRawLine l := by
  obtain ⟨s, b, hs, hb⟩ := exists_closed t
  apply exists_rawLines
  intro c hc
  rw [hs, List.getLast?_concat, Option.mem_some_iff] at hc
  exact hc ▸ hb

/-- A literal block is read up to a word that is not indented as deeply. -/
theorem readBlock_written {t : Text} (ht : allowsBlock t = true) {word : Text}
    (hword : IsWordStart word) {parent n : Nat} (hn : n < parent + 2) :
    readBlock false (some parent) (indentationHint t ++ chompingHint t ++
        '\n' :: (literalBody (parent + 2) true (closeLine t) ++ (spaces n ++ word))) =
      .ok (t, word) := by
  simp only [allowsBlock, needsEscapes, Bool.and_eq_true, Bool.not_eq_true', Bool.or_eq_false_iff,
    Bool.not_eq_false', List.isEmpty_eq_false_iff] at ht
  obtain ⟨⟨hne, -⟩, hprintable, -⟩ := ht
  obtain ⟨ls, hlines, hls⟩ := exists_closedLines t
  have hbody : StreamLine.ofText
      (literalBody (parent + 2) true (closeLine t) ++ (spaces n ++ word)) =
      ls.map (fun l => ⟨indented (parent + 2) l.1, some l.2⟩) ++
        StreamLine.ofText (spaces n ++ word) := by
    rw [hlines, literalBody_rawText _ hls, ofText_rawText, List.map_map]
    · rfl
    · intro l hl
      obtain ⟨l', hl', rfl⟩ := List.mem_map.mp hl
      exact isRawLine_indented (hls l' hl')
  have hread : ((blockLines (parent + 2) (ls.map (fun l =>
        ⟨indented (parent + 2) l.1, some l.2⟩) ++ StreamLine.ofText (spaces n ++ word))).map
      fun p => (blockText false (toldChomping t) {} p.1, p.2)) = .ok (t, word) := by
    rw [blockLines_rawText hls hword hn, Except.map, blockText_closed hne hlines hls]
  have hskip : skipLineRest ('\n' :: (literalBody (parent + 2) true (closeLine t) ++
      (spaces n ++ word))) = '\n' :: (literalBody (parent + 2) true (closeLine t) ++
      (spaces n ++ word)) := rfl
  rw [readBlock, read_header]
  simp only [hskip]
  rw [show atLineEnd ('\n' :: (literalBody (parent + 2) true (closeLine t) ++
      (spaces n ++ word))) = true from rfl,
    show afterBreak ('\n' :: (literalBody (parent + 2) true (closeLine t) ++
      (spaces n ++ word))) = literalBody (parent + 2) true (closeLine t) ++
      (spaces n ++ word) from rfl, hbody]
  rcases toldIncrement_cases t with hhint | hhint
  · simp only [hhint, Option.getD_some]
    rw [← hread]
    rfl
  · have hmax : max (parent + 2) (max 1 (parent + 1)) = parent + 2 := by omega
    simp only [hhint, foundDepth_written hne hhint hprintable hlines hls, Option.getD_some,
      Option.map_some]
    show (blockLines (max (parent + 2) (max 1 (parent + 1))) _ >>= _) = _
    rw [hmax, ← hread]
    rfl

end DiffBudget.Yaml
