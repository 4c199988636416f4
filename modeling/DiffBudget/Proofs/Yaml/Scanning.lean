import DiffBudget.Proofs.Yaml.Plain
import DiffBudget.Yaml.Scan

/-!
# Between tokens

Outside brackets, and with no key pending, a scanner is told by the text in front of it, its
column, the open collections and the tokens so far. A token leads from one such stand to another,
whatever the index and the line.
-/
namespace DiffBudget.Yaml

namespace Place

variable (p : Place)

theorem after_cons (c : Char) (t : Text) : p.after (c :: t) = (p.next c).after t := rfl

theorem after_line {t : Text} (h : ∀ c ∈ t, isBreak c = false) :
    p.after t = ⟨p.index + t.length, p.line, p.column + t.length⟩ := by
  induction t generalizing p with
  | nil => rfl
  | cons c t ih =>
    have hc : isBreak c = false := h c List.mem_cons_self
    rw [after_cons, ih _ fun d hd => h d (List.mem_cons_of_mem c hd)]
    simp only [next, hc, List.length_cons, Bool.false_eq_true, if_false, Place.mk.injEq, true_and]
    omega

theorem isBreak_of_mem_spaces {n : Nat} : ∀ c ∈ spaces n, isBreak c = false := by
  intro c hc
  rw [List.eq_of_mem_replicate hc]
  rfl

theorem line_le_after (t : Text) : p.line ≤ (p.after t).line := by
  induction t generalizing p with
  | nil => exact Nat.le_refl _
  | cons c t ih =>
    refine Nat.le_trans ?_ (ih (p.next c))
    rw [next]
    split <;> simp

theorem after_break (t : Text) {b : Char} (hb : isBreak b = true) (n : Nat) :
    (p.after (t ++ b :: spaces n)).column = n ∧ p.line < (p.after (t ++ b :: spaces n)).line := by
  rw [after_append, after_cons, after_line _ isBreak_of_mem_spaces]
  have hline := p.line_le_after t
  simp only [next, hb, if_true, spaces, List.length_replicate, Nat.zero_add, true_and]
  omega

end Place

/-! ## Runs of a scanner -/

namespace Scanner

/-- The scanner finishes with the tokens once it may take a step for each character. -/
def Scans (s : Scanner) (ts : List Token) : Prop :=
  ∀ n, s.rest.length < n → s.finish n = .ok ts

theorem Scans.step {s w s' : Scanner} {c : Char} {t : Text} {ts : List Token}
    (hnext : s.toNextToken.dropStale = .ok w) (hrest : w.rest = c :: t)
    (htoken : (w.dedent (some w.place.column)).token c t = .ok s')
    (hlength : s'.rest.length < s.rest.length) (h : s'.Scans ts) : s.Scans ts := by
  intro n hn
  cases n with
  | zero => exact absurd hn (Nat.not_lt_zero _)
  | succ n =>
    simp only [finish, hnext, bind, Except.bind, hrest, htoken]
    exact h n (by omega)

theorem moveTo_append {s : Scanner} (consumed : Text) {rest : Text} (h : s.rest = consumed ++ rest) :
    s.moveTo rest = { s with rest := rest, place := s.place.after consumed } := by
  simp [moveTo, h]

theorem skip_one {s : Scanner} {c : Char} {rest : Text} (h : s.rest = c :: rest) :
    s.skip 1 = { s with rest := rest, place := s.place.next c } := by
  rw [skip, h]
  exact moveTo_append [c] h

/-! ## White space -/

theorem skipWhite_word {word : Text} (hword : IsWordStart word) (allowed : Bool) :
    skipWhite false allowed false word = (allowed, word) := by
  cases word with
  | nil => rfl
  | cons c t =>
    obtain ⟨hwhite, hhash⟩ := hword c rfl
    simp only [isWhite, isGap, Bool.or_eq_false_iff, beq_eq_false_iff_ne] at hwhite
    obtain ⟨⟨hspace, htab⟩, hbreak⟩ := hwhite
    simp [skipWhite, hbreak, hhash, hspace, htab]

theorem skipWhite_gap {gap word : Text} (hgap : ∀ c ∈ gap, c = ' ' ∨ c = '\n')
    (hword : IsWordStart word) (allowed : Bool) :
    skipWhite false allowed false (gap ++ word) = (allowed || gap.any isBreak, word) := by
  induction gap generalizing allowed with
  | nil => simpa using skipWhite_word hword allowed
  | cons c gap ih =>
    have hrest := ih fun d hd => hgap d (List.mem_cons_of_mem c hd)
    rcases hgap c List.mem_cons_self with rfl | rfl
    · simpa [skipWhite, isBreak] using hrest allowed
    · simpa [skipWhite, isBreak] using hrest true

theorem length_skipWhite_le (inFlow allowed inComment : Bool) (t : Text) :
    (skipWhite inFlow allowed inComment t).2.length ≤ t.length := by
  fun_induction skipWhite inFlow allowed inComment t <;> simp only [List.length_cons] <;> omega

theorem rest_of_dropStale {s w : Scanner} (h : s.dropStale = .ok w) : w.rest = s.rest := by
  unfold dropStale at h
  cases hc : refresh s.place s.candidate with
  | error e => simp [hc, bind, Except.bind] at h
  | ok k =>
    cases ho : s.outer.mapM (refresh s.place) with
    | error e => simp [hc, ho, bind, Except.bind] at h
    | ok ks =>
      simp only [hc, ho, bind, Except.bind, pure, Except.pure, Except.ok.injEq] at h
      rw [← h]

theorem length_toNextToken_le {s w : Scanner} (h : s.toNextToken.dropStale = .ok w) :
    w.rest.length ≤ s.rest.length := by
  rw [rest_of_dropStale h]
  exact length_skipWhite_le _ _ _ _

/-! ## Stands -/

end Scanner

/-- Where a scanner stands outside brackets, with no key pending. -/
structure Stand where
  rest : Text
  column : Nat
  columns : List Nat
  tokens : List Token
  keyAllowed : Bool

namespace Stand

def scanner (x : Stand) (p : Place) : Scanner :=
  { rest := x.rest, place := p, tokens := x.tokens, columns := x.columns,
    keyAllowed := x.keyAllowed }

def dedent (x : Stand) : Stand :=
  { x with
    columns := x.columns.dropWhile (x.column < ·)
    tokens := (x.columns.takeWhile (x.column < ·)).map (fun _ => .blockEnd) ++ x.tokens }

theorem dedent_scanner {x : Stand} {p : Place} (h : p.column = x.column) :
    (x.scanner p).dedent (some p.column) = x.dedent.scanner p := by
  rw [h]
  rfl

theorem dedent_of_le {x : Stand} (h : ∀ k ∈ x.columns.head?, k ≤ x.column) : x.dedent = x := by
  obtain ⟨rest, column, columns, tokens, allowed⟩ := x
  cases columns with
  | nil => rfl
  | cons k columns =>
    have hk : k ≤ column := h k rfl
    simp [dedent, Nat.not_lt.mpr hk]

end Stand

namespace Scanner

theorem outer_dedent (s : Scanner) (column : Option Nat) : (s.dedent column).outer = s.outer := by
  unfold dedent
  split <;> rfl

theorem rest_dedent (s : Scanner) (column : Option Nat) : (s.dedent column).rest = s.rest := by
  unfold dedent
  split <;> rfl

theorem dedent_none {s : Scanner} (h : s.outer = []) :
    s.dedent none =
      { s with
        columns := []
        tokens := List.replicate s.columns.length .blockEnd ++ s.tokens } := by
  have hall : ∀ l : List Nat,
      l.takeWhile (fun _ => true) = l ∧ l.dropWhile (fun _ => true) = [] := by
    intro l
    induction l <;> simp_all
  simp [dedent, inFlow, h, hall, List.map_const']

theorem dedent_some {s : Scanner} (h : s.outer = []) (k : Nat) :
    s.dedent (some k) =
      { s with
        columns := s.columns.dropWhile (k < ·)
        tokens := List.replicate (s.columns.takeWhile (k < ·)).length .blockEnd ++ s.tokens } := by
  simp [dedent, inFlow, h, List.map_const']

theorem dedent_dedent {s : Scanner} (h : s.outer = []) (k : Nat) :
    (s.dedent (some k)).dedent none = s.dedent none := by
  have hlength : (s.columns.dropWhile (k < ·)).length + (s.columns.takeWhile (k < ·)).length =
      s.columns.length := by
    have hsplit := congrArg List.length (List.takeWhile_append_dropWhile
      (p := fun c => decide (k < c)) (l := s.columns))
    rw [List.length_append] at hsplit
    omega
  rw [dedent_some h, dedent_none h, dedent_none (by exact h), ← List.append_assoc,
    List.replicate_append_replicate, hlength]

def Reaches (s : Scanner) (x : Stand) : Prop :=
  ∃ (w : Scanner) (p : Place), s.toNextToken.dropStale = .ok w ∧ p.column = x.column ∧
    w.dedent (some w.place.column) = x.scanner p

theorem Reaches.of_gap {s : Scanner} (gap : Text) {word : Text} (houter : s.outer = [])
    (hrest : s.rest = gap ++ word) (hgap : ∀ c ∈ gap, c = ' ' ∨ c = '\n')
    (hword : IsWordStart word)
    (hstale : ∀ k ∈ s.candidate, k.required = false ∧ k.place.line < (s.place.after gap).line) :
    s.Reaches (Stand.dedent ⟨word, (s.place.after gap).column, s.columns, s.tokens,
      s.keyAllowed || gap.any isBreak⟩) := by
  have hnext : s.toNextToken =
      { s with
        rest := word
        place := s.place.after gap
        keyAllowed := s.keyAllowed || gap.any isBreak } := by
    have hflow : s.inFlow = false := by simp [inFlow, houter]
    rw [toNextToken, hflow, hrest, skipWhite_gap hgap hword]
    show (s.moveTo word).allowKey _ = _
    rw [moveTo_append gap hrest]
    rfl
  have hcandidate : refresh (s.place.after gap) s.candidate = .ok none := by
    cases hk : s.candidate with
    | none => rfl
    | some k =>
      obtain ⟨hrequired, hline⟩ := hstale k hk
      have hreach : k.reaches (s.place.after gap) = false := by
        simp [KeyCandidate.reaches, Nat.not_le.mpr hline]
      simp [refresh, hreach, hrequired]
  refine ⟨Stand.scanner ⟨word, (s.place.after gap).column, s.columns, s.tokens,
    s.keyAllowed || gap.any isBreak⟩ (s.place.after gap), s.place.after gap, ?_, rfl, ?_⟩
  · rw [hnext]
    simp only [dropStale, hcandidate, houter]
    rfl
  · exact Stand.dedent_scanner rfl

end Scanner

namespace Stand

def Yields (x : Stand) (ts : List Token) : Prop := ∀ s : Scanner, s.Reaches x → s.Scans ts

def Leads (x y : Stand) : Prop := ∀ ts, y.Yields ts → x.Yields ts

theorem Leads.refl (x : Stand) : x.Leads x := fun _ h => h

theorem Leads.trans {x y z : Stand} (h : x.Leads y) (h' : y.Leads z) : x.Leads z :=
  fun ts hz => h ts (h' ts hz)

theorem Yields.of_token {x : Stand} {c : Char} {t : Text} {ts : List Token}
    (hrest : x.rest = c :: t)
    (h : ∀ p : Place, p.column = x.column → ∃ s, (x.scanner p).token c t = .ok s ∧
      s.rest.length ≤ t.length ∧ s.Scans ts) : x.Yields ts := by
  intro s hs
  obtain ⟨w, p, hnext, hcolumn, hdedent⟩ := hs
  obtain ⟨s', htoken, hlength, hscans⟩ := h p hcolumn
  have hw : w.rest = c :: t := by
    rw [← Scanner.rest_dedent w, hdedent]
    exact hrest
  have hshorter := Scanner.length_toNextToken_le hnext
  rw [hw, List.length_cons] at hshorter
  rw [← hdedent] at htoken
  exact Scanner.Scans.step hnext hw htoken (by omega) hscans

theorem Leads.of_token {x y : Stand} {c : Char} {t : Text} (hrest : x.rest = c :: t)
    (h : ∀ p : Place, p.column = x.column → ∃ s, (x.scanner p).token c t = .ok s ∧
      s.rest.length ≤ t.length ∧ s.Reaches y) : x.Leads y := by
  intro ts hy
  apply Yields.of_token hrest
  intro p hp
  obtain ⟨s, htoken, hlength, hreaches⟩ := h p hp
  exact ⟨s, htoken, hlength, hy s hreaches⟩

theorem yields_end (column : Nat) (columns : List Nat) (tokens : List Token) (allowed : Bool) :
    Yields ⟨[], column, columns, tokens, allowed⟩
      (List.replicate columns.length Token.blockEnd ++ tokens).reverse := by
  intro s hs n hn
  obtain ⟨w, p, hnext, -, hdedent⟩ := hs
  have hrest : w.rest = [] := by
    rw [← Scanner.rest_dedent w, hdedent]
    rfl
  have houter : w.outer = [] := by
    rw [← Scanner.outer_dedent w, hdedent]
    rfl
  have hclosed := Scanner.dedent_dedent houter w.place.column
  rw [hdedent, Scanner.dedent_none rfl] at hclosed
  cases n with
  | zero => exact absurd hn (Nat.not_lt_zero _)
  | succ n =>
    simp only [Scanner.finish, hnext, bind, Except.bind, hrest, ← hclosed]
    rfl

end Stand
end DiffBudget.Yaml
