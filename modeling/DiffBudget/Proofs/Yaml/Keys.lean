import DiffBudget.Proofs.Yaml.Scalars

/-!
# Tokens of collections

A scalar in front of a colon is marked as a key, and opens a mapping where it is indented deeper
than the collections around it. Other entries have marks of their own.
-/
namespace DiffBudget.Yaml

namespace Stand

variable {x : Stand} {p : Place}

/-- The collection opened that starts with the token, if the column is deeper than those of the
open ones. -/
def enter (x : Stand) (start : Token) : Stand :=
  if x.columns.head?.all (· < x.column) then
    { x with columns := x.column :: x.columns, tokens := start :: x.tokens }
  else x

theorem isDeeper_scanner (s : Scanner) (h : s.columns = x.columns) :
    s.isDeeper x.column = x.columns.head?.all (· < x.column) := by
  rw [Scanner.isDeeper, h]
  cases x.columns <;> rfl

theorem insertAt_append {s : Scanner} (new old : List Token) (h : s.tokens = new ++ old)
    (t : Token) : s.insertAt old.length t = { s with tokens := new ++ t :: old } := by
  have hinsert : (new ++ old).insertIdx new.length t = new ++ t :: old := by
    clear h
    induction new with
    | nil => rfl
    | cons a new ih => simpa using ih
  rw [Scanner.insertAt, h, List.length_append, Nat.add_sub_cancel, hinsert]

theorem indent_append {s : Scanner} (new : List Token) (hcolumns : s.columns = x.columns)
    (houter : s.outer = []) (h : s.tokens = new ++ x.tokens) (start : Token) :
    s.indent x.column x.tokens.length start =
      { s with columns := (x.enter start).columns, tokens := new ++ (x.enter start).tokens } := by
  have hflow : s.inFlow = false := by simp [Scanner.inFlow, houter]
  rw [Scanner.indent, hflow, isDeeper_scanner s hcolumns, enter]
  cases x.columns.head?.all (· < x.column) with
  | false => simp [← h, ← hcolumns]
  | true =>
    simp only [Bool.not_false, Bool.and_self, if_true]
    rw [insertAt_append new x.tokens (by exact h), hcolumns]

theorem indent_scanner (hp : p.column = x.column) (start : Token) :
    (x.scanner p).indent p.column x.tokens.length start = (x.enter start).scanner p := by
  rw [hp, indent_append [] rfl rfl rfl]
  unfold enter
  split <;> rfl

/-! ## Marks -/

section

variable {t : Text}

def behindMark (x : Stand) (p : Place) (start mark : Token) : Scanner :=
  ((((x.enter start).scanner p).allowKey true).skip 1).push mark

theorem blockEntry_scanner (hallowed : x.keyAllowed = true) (hp : p.column = x.column) :
    (x.scanner p).blockEntry = .ok (x.behindMark p .blockSequenceStart .blockEntry) := by
  have hmay : (!(x.scanner p).inFlow && !(x.scanner p).keyAllowed) = false := by
    simp [scanner, hallowed]
  simp only [Scanner.blockEntry, hmay]
  show (Scanner.dropCandidate ((x.scanner p).indent p.column x.tokens.length _) >>= _) = _
  rw [indent_scanner hp]
  rfl

theorem explicitKey_scanner (hallowed : x.keyAllowed = true) (hp : p.column = x.column) :
    (x.scanner p).explicitKey = .ok (x.behindMark p .blockMappingStart .key) := by
  have hmay : (!(x.scanner p).inFlow && !(x.scanner p).keyAllowed) = false := by
    simp [scanner, hallowed]
  simp only [Scanner.explicitKey, hmay]
  show (Scanner.dropCandidate ((x.scanner p).indent p.column x.tokens.length _) >>= _) = _
  rw [indent_scanner hp]
  rfl

theorem value_scanner (hallowed : x.keyAllowed = true) (hp : p.column = x.column) :
    (x.scanner p).value = .ok (x.behindMark p .blockMappingStart .value) := by
  have hmay : (!(x.scanner p).inFlow && !(x.scanner p).keyAllowed) = false := by
    simp [scanner, hallowed]
  have hindent : (x.scanner p).indent (x.scanner p).place.column (x.scanner p).tokens.length
      .blockMappingStart = (x.enter .blockMappingStart).scanner p := indent_scanner hp _
  simp only [Scanner.value, hmay, hindent]
  rfl

theorem token_entry (ht : atWordEnd t = true) :
    (x.scanner p).token '-' t = (x.scanner p).blockEntry := by
  have hmark : opensWith documentStartMark ('-' :: t) = false := by
    cases t with
    | nil => rfl
    | cons c t =>
      have hc : '-' ≠ c := by
        rintro rfl
        cases ht
      simp [opensWith, documentStartMark, List.isPrefixOf?, hc]
  have hend : opensWith documentEndMark ('-' :: t) = false := opensWith_of_ne (by decide) _ t
  simp [Scanner.token, hmark, hend, ht]

theorem token_explicitKey (ht : atWordEnd t = true) :
    (x.scanner p).token '?' t = (x.scanner p).explicitKey := by
  have hmarks := opensWith_marks (show '?' ≠ '-' by decide) (by decide) t
  simp [Scanner.token, hmarks, ht]

theorem token_value (s : Scanner) (ht : atWordEnd t = true) : s.token ':' t = s.value := by
  have hmarks := opensWith_marks (show ':' ≠ '-' by decide) (by decide) t
  simp [Scanner.token, hmarks, ht]

end

theorem reaches_space {s : Scanner} (hrest : s.rest = ' ' :: word) (houter : s.outer = [])
    (hcandidate : s.candidate = none) (hword : IsWordStart word)
    (hcolumns : ∀ k ∈ s.columns.head?, k ≤ s.place.column + 1) :
    s.Reaches ⟨word, s.place.column + 1, s.columns, s.tokens, s.keyAllowed⟩ := by
  have hgap := Scanner.Reaches.of_gap [' '] houter hrest (by simp) hword
    (by simp [hcandidate])
  rw [dedent_of_le (by exact hcolumns)] at hgap
  simpa [Place.after_cons, Place.next, isBreak] using hgap

theorem enter_rest (start : Token) : (x.enter start).rest = x.rest := by
  unfold enter
  split <;> rfl

theorem enter_head_le (hcolumns : ∀ k ∈ x.columns.head?, k ≤ x.column) (start : Token) :
    ∀ k ∈ (x.enter start).columns.head?, k ≤ x.column := by
  unfold enter
  split
  · simp
  · exact hcolumns

theorem leads_mark {c : Char} {start mark : Token} (hrest : x.rest = c :: ' ' :: word)
    (hcolumns : ∀ k ∈ x.columns.head?, k ≤ x.column) (hc : isBreak c = false)
    (hword : IsWordStart word)
    (htoken : ∀ p : Place, p.column = x.column →
      (x.scanner p).token c (' ' :: word) = .ok (x.behindMark p start mark)) :
    x.Leads
      ⟨word, x.column + 2, (x.enter start).columns, mark :: (x.enter start).tokens, true⟩ := by
  refine Leads.of_token hrest ?_
  intro p hp
  have hskip : (((x.enter start).scanner p).allowKey true).skip 1 =
      { (x.enter start).scanner p with
        rest := ' ' :: word
        place := p.next c
        keyAllowed := true } :=
    Scanner.skip_one (by exact (enter_rest start).trans hrest)
  have hcolumn : (p.next c).column = x.column + 1 := by simp [Place.next, hc, hp]
  refine ⟨_, htoken p hp, ?_, ?_⟩
  · rw [behindMark, hskip]
    exact Nat.le_refl _
  · rw [behindMark, hskip]
    have hspace := reaches_space (s := Scanner.push { (x.enter start).scanner p with
      rest := ' ' :: word, place := p.next c, keyAllowed := true } mark) rfl rfl rfl hword (by
        intro k hk
        have hle := enter_head_le hcolumns start k hk
        show k ≤ (p.next c).column + 1
        omega)
    have hplace : (p.next c).column + 1 = x.column + 2 := by rw [hcolumn]
    rw [← hplace]
    exact hspace

theorem leads_entry {column : Nat} {columns : List Nat} {tokens : List Token}
    (hcolumns : columns.head? = some column) (hword : IsWordStart word) :
    Leads ⟨"- ".toList ++ word, column, columns, tokens, true⟩
      ⟨word, column + 2, columns, .blockEntry :: tokens, true⟩ := by
  have henter : enter ⟨"- ".toList ++ word, column, columns, tokens, true⟩ .blockSequenceStart =
      ⟨"- ".toList ++ word, column, columns, tokens, true⟩ := by
    simp [enter, hcolumns]
  have hlead := leads_mark (x := ⟨"- ".toList ++ word, column, columns, tokens, true⟩)
    rfl (by simp [hcolumns]) (by rfl) hword
    (fun p hp => (token_entry rfl).trans (blockEntry_scanner rfl hp))
  rw [henter] at hlead
  exact hlead

/-! ## Keys in front of colons -/

def behindKey (x : Stand) (q : Place) (tail t : Text) (style : Style) : Scanner :=
  { x.scanner q with
    rest := tail
    tokens := .value :: .scalar t style :: .key :: (x.enter .blockMappingStart).tokens
    columns := (x.enter .blockMappingStart).columns
    keyAllowed := false }

theorem value_behind (hallowed : x.keyAllowed = true) (hp : p.column = x.column) (w tail t : Text)
    (style : Style) :
    (x.behind p w (':' :: tail) t style false).value =
      .ok (x.behindKey ((p.after w).next ':') tail t style) := by
  have hcandidate : (x.behind p w (':' :: tail) t style false).candidate =
      some ⟨p, x.tokens.length, x.columns.head? == some p.column⟩ := if_pos hallowed
  have hkey := insertAt_append (s := x.behind p w (':' :: tail) t style false)
    [.scalar t style] x.tokens rfl .key
  have hmapping := indent_append (x := x) (s := { x.behind p w (':' :: tail) t style false with
    tokens := [.scalar t style] ++ .key :: x.tokens }) [.scalar t style, .key] rfl rfl rfl
    .blockMappingStart
  rw [Scanner.value, hcandidate]
  simp only [hp, hkey, hmapping]
  show Except.ok ((Scanner.skip _ 1).push _) = _
  rw [Scanner.skip_one (by rfl)]
  rfl

def ReadsKey (x : Stand) (w tail t : Text) (style : Style) : Prop :=
  ∃ c u, w = c :: u ∧ ∀ p : Place, p.column = x.column →
    (x.scanner p).token c (u ++ ':' :: tail) = .ok (x.behind p w (':' :: tail) t style false)

theorem next_behind (hallowed : x.keyAllowed = true) {w : Text}
    (hline : ∀ c ∈ w, isBreak c = false) (hlength : w.length ≤ 1024) (tail t : Text)
    (style : Style) :
    (x.behind p w (':' :: tail) t style false).toNextToken.dropStale =
      .ok (x.behind p w (':' :: tail) t style false) := by
  have hnext : (x.behind p w (':' :: tail) t style false).toNextToken =
      x.behind p w (':' :: tail) t style false := by
    show (Scanner.moveTo _ (Scanner.skipWhite false false false (':' :: tail)).2).allowKey
      (Scanner.skipWhite false false false (':' :: tail)).1 = _
    rw [Scanner.skipWhite_word (isWordStart_cons (by rfl) (by decide) tail),
      Scanner.moveTo_append [] (by rfl)]
    rfl
  have hreach : KeyCandidate.reaches ⟨p, x.tokens.length, x.columns.head? == some p.column⟩
      (p.after w) = true := by
    rw [p.after_line hline]
    simpa [KeyCandidate.reaches, KeyCandidate.maxLength] using hlength
  have hrefresh : Scanner.refresh (p.after w) (x.candidate p) = .ok (x.candidate p) := by
    rw [candidate, if_pos hallowed, Scanner.refresh, if_pos hreach]
  rw [hnext, Scanner.dropStale]
  show (Scanner.refresh (p.after w) (x.candidate p) >>= _) = _
  rw [hrefresh]
  rfl

theorem dedent_of_head_le {s : Scanner} (h : s.outer = []) {k : Nat}
    (hcolumns : ∀ c ∈ s.columns.head?, c ≤ k) : s.dedent (some k) = s := by
  have hkept : s.columns.takeWhile (k < ·) = [] ∧ s.columns.dropWhile (k < ·) = s.columns := by
    cases hc : s.columns with
    | nil => exact ⟨rfl, rfl⟩
    | cons c columns =>
      have hle : c ≤ k := hcolumns c (by rw [hc]; rfl)
      simp [Nat.not_lt.mpr hle]
  rw [Scanner.dedent_some h, hkept.1, hkept.2]
  rfl

theorem Yields.of_key {w tail t : Text} {style : Style} {ts : List Token}
    (hrest : x.rest = w ++ ':' :: tail) (hallowed : x.keyAllowed = true)
    (hcolumns : ∀ k ∈ x.columns.head?, k ≤ x.column) (hline : ∀ c ∈ w, isBreak c = false)
    (hlength : w.length ≤ 1024) (hend : atWordEnd tail = true)
    (hread : x.ReadsKey w tail t style)
    (hscans : ∀ q : Place, q.column = x.column + w.length + 1 →
      (x.behindKey q tail t style).Scans ts) : x.Yields ts := by
  obtain ⟨c, u, rfl, htoken⟩ := hread
  refine Yields.of_token hrest ?_
  intro p hp
  have hcolumn : (p.after (c :: u)).column = x.column + (c :: u).length := by
    rw [p.after_line hline, hp]
  refine ⟨_, htoken p hp, by simp [behind], ?_⟩
  refine Scanner.Scans.step (next_behind hallowed hline hlength tail t style) rfl ?_ ?_
    (hscans ((p.after (c :: u)).next ':') ?_)
  · rw [dedent_of_head_le (by rfl), token_value _ hend, value_behind hallowed hp]
    intro k hk
    show k ≤ (p.after (c :: u)).column
    have hle := hcolumns k hk
    omega
  · simp [behindKey, behind]
  · rw [Place.next, if_neg (by decide)]
    show (p.after (c :: u)).column + 1 = _
    omega

theorem leads_key {w word t : Text} {style : Style}
    (hrest : x.rest = w ++ ':' :: ' ' :: word) (hallowed : x.keyAllowed = true)
    (hcolumns : ∀ k ∈ x.columns.head?, k ≤ x.column) (hline : ∀ c ∈ w, isBreak c = false)
    (hlength : w.length ≤ 1024) (hword : IsWordStart word)
    (hread : x.ReadsKey w (' ' :: word) t style) :
    x.Leads ⟨word, x.column + w.length + 2, (x.enter .blockMappingStart).columns,
      .value :: .scalar t style :: .key :: (x.enter .blockMappingStart).tokens, false⟩ := by
  intro ts hts
  refine Yields.of_key hrest hallowed hcolumns hline hlength rfl hread ?_
  intro q hq
  have hspace := reaches_space (s := x.behindKey q (' ' :: word) t style) rfl rfl rfl hword (by
    intro k hk
    have hle := enter_head_le hcolumns .blockMappingStart k hk
    show k ≤ q.column + 1
    omega)
  apply hts
  have hplace : q.column + 1 = x.column + w.length + 2 := by omega
  rw [← hplace]
  exact hspace

theorem leads_key_line {w word t : Text} {style : Style} {n : Nat}
    (hrest : x.rest = w ++ ':' :: '\n' :: (spaces n ++ word)) (hallowed : x.keyAllowed = true)
    (hcolumns : ∀ k ∈ x.columns.head?, k ≤ x.column) (hline : ∀ c ∈ w, isBreak c = false)
    (hlength : w.length ≤ 1024) (hword : IsWordStart word)
    (hread : x.ReadsKey w ('\n' :: (spaces n ++ word)) t style) :
    x.Leads (dedent ⟨word, n, (x.enter .blockMappingStart).columns,
      .value :: .scalar t style :: .key :: (x.enter .blockMappingStart).tokens, true⟩) := by
  intro ts hts
  refine Yields.of_key hrest hallowed hcolumns hline hlength rfl hread ?_
  intro q _
  apply hts
  exact reaches_line (p := q) [] ('\n' :: spaces n) [] rfl rfl rfl
    gap_of_line hword rfl rfl rfl (by simp [behindKey, scanner])

theorem readsKey_plain {tail t : Text} (hrest : x.rest = t ++ ':' :: tail)
    (hcolumns : ∀ k ∈ x.columns.head?, k ≤ x.column) (hplain : IsPlain t) (hne : t ≠ [])
    (hend : atWordEnd tail = true)
    (hmark : x.column = 0 → ∀ c ∈ t.head?, c ≠ '-' ∧ c ≠ '.') :
    x.ReadsKey t tail t .plain := by
  cases t with
  | nil => exact absurd rfl hne
  | cons c t =>
    refine ⟨c, t, rfl, ?_⟩
    intro p hp
    have hleast : ((x.columns.head?.map (· + 1)).getD 0) ≤ p.column + 1 := by
      cases hk : x.columns.head? with
      | none => simp
      | some k =>
        have hle := hcolumns k hk
        simp only [Option.map_some, Option.getD_some]
        omega
    rw [token_of_isPlain hplain (fun hzero => hmark (hp ▸ hzero) c rfl)]
    refine plainScalar_scanner _ hrest ?_
    rw [hrest]
    exact hplain.read_key rfl hleast hend

theorem readsKey_scalar {tail t : Text} (indent : Nat)
    (hrest : x.rest = writeScalar (indent + 1) t ++ ':' :: tail)
    (hcolumns : ∀ k ∈ x.columns.head?, k ≤ x.column) (hcolumn : x.column ≠ 0)
    (hsimple : isSimpleKey t = true) (hend : atWordEnd tail = true) :
    x.ReadsKey (writeScalar (indent + 1) t) tail t (Style.ofText t) := by
  rcases style_cases t with ⟨h, hplain, hne⟩ | ⟨h, hallowed, hline⟩ | ⟨-, -, hbreak⟩ | h
  · have hwritten : writeScalar (indent + 1) t = t := by rw [writeScalar, h]
    rw [h, hwritten]
    rw [hwritten] at hrest
    exact readsKey_plain hrest hcolumns hplain hne hend (fun hzero => absurd hzero hcolumn)
  · have hwritten : writeScalar (indent + 1) t =
        '\'' :: (singleQuotedBody (indent + 1) false t ++ ['\'']) := by
      rw [writeScalar, h]
      rfl
    rw [h, hwritten]
    rw [hwritten] at hrest
    refine ⟨'\'', _, rfl, ?_⟩
    intro p _
    rw [token_single]
    refine quotedScalar_scanner hrest ?_
    rw [List.append_assoc]
    exact readSingleQuoted_written (Nat.succ_pos indent) hallowed hline (by simp)
  · exact absurd (isBreak_of_isSimpleKey hsimple _ hbreak) (by decide)
  · have hwritten : writeScalar (indent + 1) t = '"' :: (t.flatMap doubleQuotedChar ++ ['"']) := by
      rw [writeScalar, h]
      rfl
    rw [h, hwritten]
    rw [hwritten] at hrest
    refine ⟨'"', _, rfl, ?_⟩
    intro p _
    rw [token_double]
    refine quotedScalar_scanner hrest ?_
    rw [List.append_assoc]
    exact readDoubleQuoted_written t _

end Stand
end DiffBudget.Yaml
