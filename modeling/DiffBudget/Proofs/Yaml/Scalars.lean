import DiffBudget.Proofs.Yaml.Scanning
import DiffBudget.Proofs.Yaml.Written

/-!
# Tokens of scalars

A written scalar is one token, in whatever style. At the end of a line the scanner goes on to the
next line; before a colon the scalar is the key of a mapping.
-/
namespace DiffBudget.Yaml

namespace Stand

variable {x : Stand} {p : Place}

def candidate (x : Stand) (p : Place) : Option KeyCandidate :=
  if x.keyAllowed then some ⟨p, x.tokens.length, x.columns.head? == some p.column⟩ else none

def behind (x : Stand) (p : Place) (consumed rest : Text) (t : Text) (style : Style)
    (allowed : Bool) : Scanner :=
  { x.scanner p with
    rest
    place := p.after consumed
    tokens := .scalar t style :: x.tokens
    candidate := x.candidate p
    keyAllowed := allowed }

theorem saveCandidate_scanner :
    (x.scanner p).saveCandidate = .ok { x.scanner p with candidate := x.candidate p } := by
  unfold Scanner.saveCandidate candidate
  cases h : x.keyAllowed with
  | false => simp [scanner, h]; rfl
  | true => simp [scanner, h]; rfl

/-! ## What a scalar starts with -/

theorem token_single (t : Text) :
    (x.scanner p).token '\'' t = (x.scanner p).quotedScalar .singleQuoted readSingleQuoted := by
  have hmarks := opensWith_marks (show '\'' ≠ '-' by decide) (by decide) t
  simp [Scanner.token, hmarks]

theorem token_double (t : Text) :
    (x.scanner p).token '"' t = (x.scanner p).quotedScalar .doubleQuoted readDoubleQuoted := by
  have hmarks := opensWith_marks (show '"' ≠ '-' by decide) (by decide) t
  simp [Scanner.token, hmarks]

theorem token_literal (t : Text) :
    (x.scanner p).token '|' t = (x.scanner p).blockScalar .literal := by
  have hmarks := opensWith_marks (show '|' ≠ '-' by decide) (by decide) t
  simp [Scanner.token, hmarks, Scanner.inFlow, scanner]

theorem token_plain {c : Char} {t : Text} (hwhite : isWhite c = false)
    (hcolumn : p.column = 0 → c ≠ '-' ∧ c ≠ '.')
    (hindicator : "#,[]\x7b\x7d&*!|>'\"%@\x60".toList.contains c = false)
    (hword : c = '?' ∨ c = ':' ∨ c = '-' → atWordEnd t = false) :
    (x.scanner p).token c t = (x.scanner p).plainScalar := by
  have hmarks : ((x.scanner p).place.column == 0 && opensWith documentStartMark (c :: t)) = false ∧
      ((x.scanner p).place.column == 0 && opensWith documentEndMark (c :: t)) = false := by
    show (p.column == 0 && _) = false ∧ (p.column == 0 && _) = false
    by_cases hp : p.column = 0
    · obtain ⟨hdash, hdot⟩ := hcolumn hp
      simp [opensWith_marks hdash hdot t]
    · simp [hp]
  have hflow : (x.scanner p).inFlow = false := rfl
  simp at hindicator
  have hplain : (x.scanner p).startsPlain c t = true := by
    by_cases hc : c = '?' ∨ c = ':' ∨ c = '-'
    · have hend := hword hc
      have hgap : startsWhite t = false := by
        cases t with
        | nil => rfl
        | cons d t =>
          simp only [atWordEnd, isWhite, Bool.or_eq_false_iff] at hend
          exact hend.1
      rcases hc with rfl | rfl | rfl <;> simp [Scanner.startsPlain, hflow, hend, hgap]
    · simp only [not_or] at hc
      simp [Scanner.startsPlain, hwhite, hindicator, hc]
  have hends : ∀ d, d = '?' ∨ d = ':' ∨ d = '-' → (c == d && atWordEnd t) = false := by
    intro d hd
    by_cases hc : c = d
    · subst hc
      simp [hword hd]
    · simp [hc]
  simp only [Scanner.token, hmarks, hflow, hplain, hends '?' (by decide), hends ':' (by decide),
    hends '-' (by decide), Bool.false_or]
  simp [hindicator]

theorem token_of_isPlain {c : Char} {t : Text} (h : IsPlain (c :: t))
    (hcolumn : p.column = 0 → c ≠ '-' ∧ c ≠ '.') (tail : Text) :
    (x.scanner p).token c (t ++ tail) = (x.scanner p).plainScalar := by
  have hstart := h.start c t rfl
  rw [isIndicatorAtStart, Bool.or_eq_false_iff] at hstart
  refine token_plain (isWhite_of_isPlain h) hcolumn hstart.1 ?_
  intro hc
  have hend := hstart.2
  rw [Bool.and_eq_false_iff] at hend
  rcases hend with hend | hend
  · rcases hc with rfl | rfl | rfl <;> simp at hend
  · exact atWordEnd_eq_false hend

/-! ## Behind the scalar -/

theorem plainScalar_scanner (consumed : Text) {rest t : Text} {allowed : Bool}
    (hrest : x.rest = consumed ++ rest)
    (hread : readPlain ⟨false, (x.columns.head?.map (· + 1)).getD 0⟩ p.column [] x.rest =
      .ok ⟨t, allowed, rest⟩) :
    (x.scanner p).plainScalar = .ok (x.behind p consumed rest t .plain allowed) := by
  rw [Scanner.plainScalar, saveCandidate_scanner]
  show (readPlain ⟨false, (x.columns.head?.map (· + 1)).getD 0⟩ p.column [] x.rest >>= _) = _
  rw [hread]
  show Except.ok ((Scanner.moveTo (Scanner.allowKey _ allowed) rest).push _) = _
  rw [Scanner.moveTo_append _ (by exact hrest)]
  rfl

theorem quotedScalar_scanner {style : Style} {read : Text → Except Fault (Text × Text)}
    {quote : Char} {body rest t : Text} (hrest : x.rest = quote :: body ++ rest)
    (hread : read (body ++ rest) = .ok (t, rest)) :
    (x.scanner p).quotedScalar style read =
      .ok (x.behind p (quote :: body) rest t style false) := by
  rw [Scanner.quotedScalar, saveCandidate_scanner]
  show (read (x.rest.drop 1) >>= _) = _
  rw [hrest]
  show (read (body ++ rest) >>= _) = _
  rw [hread]
  show Except.ok ((Scanner.moveTo (Scanner.allowKey _ false) rest).push _) = _
  rw [Scanner.moveTo_append _ (by exact hrest)]
  rfl

theorem blockScalar_scanner (body rest : Text) {t : Text} (hrest : x.rest = '|' :: body ++ rest)
    (hread : readBlock false x.columns.head? (body ++ rest) = .ok (t, rest)) :
    (x.scanner p).blockScalar .literal =
      .ok { x.behind p ('|' :: body) rest t .literal true with candidate := none } := by
  rw [Scanner.blockScalar]
  show (readBlock false x.columns.head? (x.rest.drop 1) >>= _) = _
  rw [hrest]
  show (readBlock false x.columns.head? (body ++ rest) >>= _) = _
  rw [hread]
  show Except.ok ((Scanner.moveTo (Scanner.allowKey _ true) rest).push _) = _
  rw [Scanner.moveTo_append _ (by exact hrest)]
  rfl

/-! ## At the end of a line -/

theorem reaches_line {s : Scanner} (consumed gap before : Text) {word : Text} {b : Char} {n : Nat}
    (houter : s.outer = []) (hrest : s.rest = gap ++ word) (hplace : s.place = p.after consumed)
    (hgap : ∀ c ∈ gap, c = ' ' ∨ c = '\n') (hword : IsWordStart word)
    (hline : consumed ++ gap = before ++ b :: spaces n) (hb : isBreak b = true)
    (hallowed : (s.keyAllowed || gap.any isBreak) = true)
    (hcandidate : ∀ k ∈ s.candidate, k.required = false ∧ k.place.line ≤ p.line) :
    s.Reaches (dedent ⟨word, n, s.columns, s.tokens, true⟩) := by
  have hafter := p.after_break before hb n
  rw [← hline, Place.after_append, ← hplace] at hafter
  have hreach := Scanner.Reaches.of_gap gap houter hrest hgap hword (by
    intro k hk
    obtain ⟨hrequired, hle⟩ := hcandidate k hk
    exact ⟨hrequired, Nat.lt_of_le_of_lt hle hafter.2⟩)
  rw [hafter.1, hallowed] at hreach
  exact hreach

/-- A scalar that is indented deeper than its collection need not be a key. -/
theorem candidate_of_deeper {parent : Nat} {columns : List Nat}
    (hcolumns : x.columns = parent :: columns) (hdeeper : parent < x.column)
    (hp : p.column = x.column) :
    ∀ k ∈ x.candidate p, k.required = false ∧ k.place.line ≤ p.line := by
  intro k hk
  unfold candidate at hk
  split at hk
  · cases hk
    simp [hcolumns, hp, Nat.ne_of_lt hdeeper]
  · cases hk

theorem gap_of_line {n : Nat} : ∀ c ∈ '\n' :: spaces n, c = ' ' ∨ c = '\n' := by
  intro c hc
  rcases List.mem_cons.mp hc with rfl | hc
  · exact .inr rfl
  · exact .inl (List.eq_of_mem_replicate hc)

section

variable {t word : Text} {column parent n : Nat} {columns : List Nat} {tokens : List Token}
  {allowed : Bool}

theorem leads_plain (h : IsPlain t) (hne : t ≠ []) (hparent : parent < column) (hn : n ≤ parent)
    (hword : IsWordStart word) :
    Leads ⟨t ++ '\n' :: (spaces n ++ word), column, parent :: columns, tokens, allowed⟩
      (dedent ⟨word, n, parent :: columns, .scalar t .plain :: tokens, true⟩) := by
  cases t with
  | nil => exact absurd rfl hne
  | cons c t =>
    refine Leads.of_token rfl ?_
    intro p hp
    have hp' : p.column = column := hp
    refine ⟨_, (token_of_isPlain h (by omega) _).trans
      (plainScalar_scanner (c :: t ++ '\n' :: spaces n) (by simp)
        (h.read_line rfl (by show parent + 1 ≤ p.column + 1; omega) hword
          (by show n < parent + 1; omega))), by simp [behind]; omega, ?_⟩
    exact reaches_line (p := p) _ [] _ rfl rfl rfl (by simp) hword (List.append_nil _) rfl rfl
      (candidate_of_deeper rfl hparent hp)

theorem leads_quoted {quote : Char} {body : Text} {style : Style}
    {read : Text → Except Fault (Text × Text)}
    (htoken : ∀ (x : Stand) (p : Place) (u : Text),
      (x.scanner p).token quote u = (x.scanner p).quotedScalar style read)
    (hread : read (body ++ '\n' :: (spaces n ++ word)) = .ok (t, '\n' :: (spaces n ++ word)))
    (hparent : parent < column) (hword : IsWordStart word) :
    Leads ⟨quote :: body ++ '\n' :: (spaces n ++ word), column, parent :: columns, tokens, allowed⟩
      (dedent ⟨word, n, parent :: columns, .scalar t style :: tokens, true⟩) := by
  refine Leads.of_token rfl ?_
  intro p hp
  refine ⟨_, (htoken _ p _).trans (quotedScalar_scanner rfl hread), by simp [behind], ?_⟩
  exact reaches_line (p := p) _ ('\n' :: spaces n) _ rfl (by simp [behind]) rfl gap_of_line
    hword rfl rfl (by simp [isBreak]) (candidate_of_deeper rfl hparent hp)

theorem leads_literal (h : allowsBlock t = true) (hn : n ≤ parent) (hword : IsWordStart word) :
    Leads ⟨closeLine (literal (parent + 2) t) ++ (spaces n ++ word), column, parent :: columns,
        tokens, allowed⟩
      (dedent ⟨word, n, parent :: columns, .scalar t .literal :: tokens, true⟩) := by
  have hne : t ≠ [] := by
    rintro rfl
    simp [allowsBlock] at h
  obtain ⟨s, b, hs, hb⟩ := exists_closed t
  rw [closeLine_literal _ hne]
  refine Leads.of_token rfl ?_
  intro p hp
  refine ⟨_, (token_literal _).trans (blockScalar_scanner (t := t)
    (indentationHint t ++ chompingHint t ++
      '\n' :: (literalBody (parent + 2) true (closeLine t) ++ spaces n)) word ?_ ?_), ?_, ?_⟩
  · simp
  · simpa using readBlock_written h hword (show n < parent + 2 by omega)
  · simp [behind]
    omega
  · refine reaches_line (p := p) _ [] ('|' :: (indentationHint t ++ chompingHint t ++
        '\n' :: literalBody (parent + 2) true s))
      (b := b) rfl rfl rfl (by simp) hword ?_ hb rfl (by simp)
    simp [hs, literalBody_concat _ _ _ hb]

/-! ## All styles -/

theorem leads_scalar (t : Text) (hparent : parent < column) (hn : n ≤ parent)
    (hword : IsWordStart word) :
    Leads ⟨closeLine (writeScalar (parent + 2) t) ++ (spaces n ++ word), column, parent :: columns,
        tokens, allowed⟩
      (dedent ⟨word, n, parent :: columns, .scalar t (Style.ofText t) :: tokens, true⟩) := by
  rcases style_cases t with ⟨h, hplain, hne⟩ | ⟨h, hallowed, hline⟩ | ⟨h, hallowed, -⟩ | h
  all_goals rw [writeScalar, h]
  · simp only [closeLine_of_isPlain hplain hne, List.append_assoc, List.singleton_append]
    exact leads_plain hplain hne hparent hn hword
  · have hwritten : closeLine (singleQuoted (parent + 2) t) ++ (spaces n ++ word) =
        '\'' :: (singleQuotedBody (parent + 2) false t ++ ['\'']) ++
          '\n' :: (spaces n ++ word) := by
      rw [singleQuoted, closeLine_of_text _ (by rfl)]
      simp
    simp only [hwritten]
    refine leads_quoted (fun _ _ => token_single) ?_ hparent hword
    rw [List.append_assoc]
    exact readSingleQuoted_written (Nat.succ_pos _) hallowed hline (by simp)
  · exact leads_literal hallowed hn hword
  · have hwritten : closeLine (doubleQuoted t) ++ (spaces n ++ word) =
        '"' :: (t.flatMap doubleQuotedChar ++ ['"']) ++ '\n' :: (spaces n ++ word) := by
      rw [doubleQuoted, closeLine_of_text _ (by rfl)]
      simp
    simp only [hwritten]
    refine leads_quoted (fun _ _ => token_double) ?_ hparent hword
    rw [List.append_assoc]
    exact readDoubleQuoted_written t _

end

end Stand
end DiffBudget.Yaml
