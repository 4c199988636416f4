import DiffBudget.Proofs.Hunk.Header
import DiffBudget.Proofs.Yaml.Keys

/-!
# Tokens of a document

A written document is a block mapping: for each entry a key that is a plain word, and behind it
the tokens of its value. Lists are no deeper than their keys, tables are.
-/
namespace DiffBudget.Yaml

/-! ## Words -/

def isWordChar (c : Char) : Bool := Text.isDigit c || ('a' ≤ c && c ≤ 'z') || c == '_'

/-- A text that any reader takes for a plain scalar. -/
def IsWord (t : Text) : Prop := t ≠ [] ∧ ∀ c ∈ t, isWordChar c = true

/-- Decided over the characters of the text, not over all characters. -/
instance (t : Text) : Decidable (IsWord t) :=
  decidable_of_iff (t ≠ [] ∧ t.all isWordChar = true) (by rw [IsWord, List.all_eq_true])

theorem ne_of_isWordChar {c d : Char} (h : isWordChar c = true) (hd : isWordChar d = false) :
    c ≠ d := by
  rintro rfl
  rw [hd] at h
  cases h

theorem isPrintable_of_isWordChar {c : Char} (h : isWordChar c = true) : isPrintable c = true := by
  have hle : ∀ a b : Char, (a ≤ b) = (a.toNat ≤ b.toNat) := fun _ _ => rfl
  simp only [isWordChar, Text.isDigit, Bool.or_eq_true, Bool.and_eq_true, decide_eq_true_eq,
    beq_iff_eq, hle] at h
  simp only [isPrintable, Bool.or_eq_true, Bool.and_eq_true, decide_eq_true_eq]
  rcases h with (h | h) | rfl
  · have hlow : '0'.toNat = 48 := rfl
    have hhigh : '9'.toNat = 57 := rfl
    omega
  · have hlow : 'a'.toNat = 97 := rfl
    have hhigh : 'z'.toNat = 122 := rfl
    omega
  · decide

theorem isWord_ofNat (n : Nat) : IsWord (Text.ofNat n) := by
  refine ⟨Nat.toDigits_ne_nil, ?_⟩
  intro c hc
  simp [isWordChar, Text.isDigit_of_mem_ofNat hc]

theorem notSpecial_of_isWordChar {c : Char} (h : isWordChar c = true) :
    isAnyBreak c = false ∧ isWordEnd c = false ∧
      "#,[]\x7b\x7d&*!|>'\"%@\x60".toList.contains c = false := by
  have hne : ∀ d, isWordChar d = false → c ≠ d := fun d => ne_of_isWordChar h
  refine ⟨?_, ?_, ?_⟩
  · simp only [isAnyBreak, isBreak, Bool.or_eq_false_iff, beq_eq_false_iff_ne]
    and_intros <;> exact hne _ (by decide)
  · simp only [isWordEnd, isWhite, isGap, isBreak, Bool.or_eq_false_iff, beq_eq_false_iff_ne]
    and_intros <;> exact hne _ (by decide)
  · rw [← Bool.not_eq_true, List.contains_iff_mem]
    intro hc
    have hnone : ∀ d ∈ "#,[]\x7b\x7d&*!|>'\"%@\x60".toList, isWordChar d = false := by
      simp [isWordChar, Text.isDigit]
    exact hne c (hnone c hc) rfl

theorem hasInnerIndicator_of_isWord {t : Text} (h : ∀ c ∈ t, isWordChar c = true) (spaced : Bool) :
    hasInnerIndicator spaced t = false := by
  induction t generalizing spaced with
  | nil => rfl
  | cons c t ih =>
    have hc : isWordChar c = true := h c List.mem_cons_self
    have hcolon : c ≠ ':' := ne_of_isWordChar hc (by decide)
    have hhash : c ≠ '#' := ne_of_isWordChar hc (by decide)
    simp [hasInnerIndicator, hcolon, hhash, ih (fun d hd => h d (List.mem_cons_of_mem c hd))]

theorem isPlain_of_isWord {t : Text} (h : IsWord t) : IsPlain t := by
  obtain ⟨-, h⟩ := h
  refine ⟨?_, ?_, ?_, ?_, ?_, hasInnerIndicator_of_isWord h false⟩
  · intro hhead
    exact absurd (h ' ' (List.mem_of_head? hhead)) (by decide)
  · intro hlast
    exact absurd (h ' ' (List.mem_of_getLast? hlast)) (by decide)
  · rw [List.any_eq_false]
    intro c hc
    simp [(notSpecial_of_isWordChar (h c hc)).1]
  · rw [List.all_eq_true]
    intro c hc
    exact isPrintable_of_isWordChar (h c hc)
  · rintro c s rfl
    have hc : isWordChar c = true := h c List.mem_cons_self
    have hmarks : c ≠ '?' ∧ c ≠ ':' ∧ c ≠ '-' := ⟨ne_of_isWordChar hc (by decide),
      ne_of_isWordChar hc (by decide), ne_of_isWordChar hc (by decide)⟩
    simp only [isIndicatorAtStart, (notSpecial_of_isWordChar hc).2.2]
    simp [hmarks]

/-! ## Starts of words -/

theorem isWordStart_of_isPlain {t : Text} (h : IsPlain t) (hne : t ≠ []) (tail : Text) :
    IsWordStart (t ++ tail) := by
  cases t with
  | nil => exact absurd rfl hne
  | cons c t =>
    refine isWordStart_cons (isWhite_of_isPlain h) ?_ (t ++ tail)
    rintro rfl
    have hstart := h.start '#' t rfl
    simp [isIndicatorAtStart] at hstart

theorem isWordStart_of_isWord {t : Text} (h : IsWord t) (tail : Text) : IsWordStart (t ++ tail) :=
  isWordStart_of_isPlain (isPlain_of_isWord h) h.1 tail

theorem writeScalar_ne_nil (indent : Nat) (t : Text) : writeScalar indent t ≠ [] := by
  rcases style_cases t with ⟨h, -, hne⟩ | ⟨h, -⟩ | ⟨h, -⟩ | h
  all_goals rw [writeScalar, h]
  · exact hne
  all_goals exact List.cons_ne_nil _ _

theorem isWordStart_writeScalar (indent : Nat) (t tail : Text) :
    IsWordStart (writeScalar indent t ++ tail) := by
  rcases style_cases t with ⟨h, hplain, hne⟩ | ⟨h, -⟩ | ⟨h, -⟩ | h
  all_goals rw [writeScalar, h]
  · exact isWordStart_of_isPlain hplain hne tail
  all_goals exact isWordStart_cons (by rfl) (by decide) _

theorem isWordStart_closeLine (indent : Nat) (t tail : Text) :
    IsWordStart (closeLine (writeScalar indent t) ++ tail) := by
  rw [closeLine]
  split
  · exact isWordStart_writeScalar indent t tail
  · rw [List.append_assoc]
    exact isWordStart_writeScalar indent t _

/-! ## Lists -/

def itemText (t : Text) : Text := "- ".toList ++ closeLine (writeScalar 2 t)

def itemTokens (t : Text) : List Token := [.blockEntry, .scalar t (Style.ofText t)]

namespace Stand

variable {word : Text} {tokens : List Token}

theorem leads_item (t : Text) (hword : IsWordStart word) :
    Leads ⟨itemText t ++ word, 0, [0], tokens, true⟩
      ⟨word, 0, [0], (itemTokens t).reverse ++ tokens, true⟩ := by
  rw [itemText, List.append_assoc]
  refine (leads_entry rfl (isWordStart_closeLine 2 t word)).trans ?_
  exact leads_scalar t (by decide) (Nat.le_refl 0) hword

theorem isWordStart_items (items : List Text) (hword : IsWordStart word) :
    IsWordStart (items.flatMap itemText ++ word) := by
  cases items with
  | nil => exact hword
  | cons t items => exact isWordStart_cons (by rfl) (by decide) _

theorem leads_items (items : List Text) (hword : IsWordStart word) :
    Leads ⟨items.flatMap itemText ++ word, 0, [0], tokens, true⟩
      ⟨word, 0, [0], (items.flatMap itemTokens).reverse ++ tokens, true⟩ := by
  induction items generalizing tokens with
  | nil => exact Leads.refl _
  | cons t items ih =>
    rw [List.flatMap_cons, List.flatMap_cons, List.append_assoc, List.reverse_append,
      List.append_assoc]
    exact (leads_item t (isWordStart_items items hword)).trans ih

end Stand

/-! ## Tables -/

def entryText (e : Text × Nat) : Text :=
  if isSimpleKey e.1 then writeScalar 4 e.1 ++ ": ".toList ++ Text.ofNat e.2 ++ ['\n']
  else
    "? ".toList ++ closeLine (writeScalar 4 e.1) ++ spaces 2 ++ ": ".toList ++ Text.ofNat e.2 ++
      ['\n']

def entryTokens (e : Text × Nat) : List Token :=
  [.key, .scalar e.1 (Style.ofText e.1), .value, .scalar (Text.ofNat e.2) .plain]

theorem tableEntry_eq (e : Text × Nat) : tableEntry e.1 e.2 = spaces 2 ++ entryText e := by
  unfold tableEntry entryText
  split
  · simp
  · rw [closeLine_append _ (writeScalar_ne_nil 4 e.1)]
    simp

theorem isWordStart_entryText (e : Text × Nat) (tail : Text) :
    IsWordStart (entryText e ++ tail) := by
  unfold entryText
  split
  · simp only [List.append_assoc]
    exact isWordStart_writeScalar 4 e.1 _
  · exact isWordStart_cons (by rfl) (by decide) _

namespace Stand

variable {word : Text} {tokens : List Token}

def Opens (column : Nat) (columns : List Nat) (tokens : List Token) (columns' : List Nat)
    (tokens' : List Token) : Prop :=
  (∀ k ∈ columns.head?, k ≤ column) ∧
    ∀ rest, enter ⟨rest, column, columns, tokens, true⟩ .blockMappingStart =
      ⟨rest, column, columns', tokens', true⟩

theorem opens_first (tokens : List Token) :
    Opens 2 [0] tokens [2, 0] (.blockMappingStart :: tokens) :=
  ⟨by simp, fun _ => rfl⟩

theorem opens_next (tokens : List Token) : Opens 2 [2, 0] tokens [2, 0] tokens :=
  ⟨by simp, fun _ => rfl⟩

variable {columns : List Nat} {tokens' : List Token} {n : Nat}

theorem leads_simpleEntry (e : Text × Nat) (hopens : Opens 2 columns tokens [2, 0] tokens')
    (hsimple : isSimpleKey e.1 = true) (hn : n ≤ 2) (hword : IsWordStart word) :
    Leads ⟨writeScalar 4 e.1 ++ ": ".toList ++ Text.ofNat e.2 ++ ['\n'] ++ (spaces n ++ word), 2,
        columns, tokens, true⟩
      (dedent ⟨word, n, [2, 0], (entryTokens e).reverse ++ tokens', true⟩) := by
  obtain ⟨hhead, henter⟩ := hopens
  obtain ⟨hline, hlength⟩ := writeScalar_key 4 hsimple
  have hnumber := isWord_ofNat e.2
  have hcolumn : 2 < 2 + (writeScalar 4 e.1).length + 2 := by omega
  simp only [List.append_assoc]
  have hread := readsKey_scalar (x := ⟨writeScalar 4 e.1 ++ ':' :: ' ' :: (Text.ofNat e.2 ++
    '\n' :: (spaces n ++ word)), 2, columns, tokens, true⟩) 3 rfl hhead (Nat.succ_ne_zero 1)
    hsimple rfl
  have hkey := leads_key rfl rfl hhead hline hlength (isWordStart_of_isWord hnumber _) hread
  rw [henter] at hkey
  exact hkey.trans (leads_plain (isPlain_of_isWord hnumber) hnumber.1 hcolumn hn hword)

theorem leads_markedEntry (e : Text × Nat) (hopens : Opens 2 columns tokens [2, 0] tokens')
    (hn : n ≤ 2) (hword : IsWordStart word) :
    Leads ⟨"? ".toList ++ closeLine (writeScalar 4 e.1) ++ spaces 2 ++ ": ".toList ++
        Text.ofNat e.2 ++ ['\n'] ++ (spaces n ++ word), 2, columns, tokens, true⟩
      (dedent ⟨word, n, [2, 0], (entryTokens e).reverse ++ tokens', true⟩) := by
  obtain ⟨hhead, henter⟩ := hopens
  have hnumber := isWord_ofNat e.2
  simp only [List.append_assoc]
  have hcolon : IsWordStart (':' :: ' ' :: (Text.ofNat e.2 ++ '\n' :: (spaces n ++ word))) :=
    isWordStart_cons (by rfl) (by decide) _
  have hkey := leads_mark (x := ⟨'?' :: ' ' :: (closeLine (writeScalar 4 e.1) ++ (spaces 2 ++
      ':' :: ' ' :: (Text.ofNat e.2 ++ '\n' :: (spaces n ++ word)))), 2, columns, tokens, true⟩)
    rfl hhead (by rfl) (isWordStart_closeLine 4 e.1 _)
    (fun p hp => (token_explicitKey rfl).trans (explicitKey_scanner rfl hp))
  rw [henter] at hkey
  have hvalue := leads_mark (x := ⟨':' :: ' ' :: (Text.ofNat e.2 ++ '\n' :: (spaces n ++ word)), 2,
      [2, 0], .scalar e.1 (Style.ofText e.1) :: .key :: tokens', true⟩) rfl (by simp) (by rfl)
    (isWordStart_of_isWord hnumber _)
    (fun p hp => (token_value _ rfl).trans (value_scanner rfl hp))
  have hdeeper : 2 < 2 + 2 := by decide
  refine hkey.trans ((leads_scalar e.1 hdeeper (Nat.le_refl 2) hcolon).trans (hvalue.trans ?_))
  exact leads_plain (isPlain_of_isWord hnumber) hnumber.1 hdeeper hn hword

theorem leads_entryText (e : Text × Nat) (hopens : Opens 2 columns tokens [2, 0] tokens')
    (hn : n ≤ 2) (hword : IsWordStart word) :
    Leads ⟨entryText e ++ (spaces n ++ word), 2, columns, tokens, true⟩
      (dedent ⟨word, n, [2, 0], (entryTokens e).reverse ++ tokens', true⟩) := by
  unfold entryText
  split
  case isTrue hsimple => exact leads_simpleEntry e hopens hsimple hn hword
  case isFalse => exact leads_markedEntry e hopens hn hword

theorem leads_table (es : List (Text × Nat)) (hword : IsWordStart word) :
    ∀ (e : Text × Nat) (columns : List Nat) (tokens tokens' : List Token),
      Opens 2 columns tokens [2, 0] tokens' →
      Leads
        ⟨entryText e ++ ((es.flatMap fun e => tableEntry e.1 e.2) ++ word), 2, columns, tokens, true⟩
        ⟨word, 0, [0], .blockEnd :: (((e :: es).flatMap entryTokens).reverse ++ tokens'),
          true⟩ := by
  induction es with
  | nil =>
    intro e columns tokens tokens' hopens
    have hlead := leads_entryText (n := 0) e hopens (by decide) hword
    simpa [dedent, spaces] using hlead
  | cons e' es ih =>
    intro e columns tokens tokens' hopens
    have hlead := leads_entryText (n := 2) e hopens (Nat.le_refl 2)
      (isWordStart_entryText e' ((es.flatMap fun e => tableEntry e.1 e.2) ++ word))
    have hrest := ih e' [2, 0] ((entryTokens e).reverse ++ tokens') _ (opens_next _)
    rw [List.flatMap_cons, tableEntry_eq, List.append_assoc, List.append_assoc]
    refine hlead.trans ?_
    simpa [dedent] using hrest

/-! ## Empty collections -/

theorem token_bracket {c : Char} {mark : Token}
    (hc : (c = '[' ∧ mark = .flowSequenceStart) ∨ (c = '\x7b' ∧ mark = .flowMappingStart))
    (s : Scanner) (t : Text) : s.token c t = s.openFlow mark := by
  rcases hc with ⟨rfl, rfl⟩ | ⟨rfl, rfl⟩
  all_goals
    simp [Scanner.token, opensWith, documentStartMark, documentEndMark, List.isPrefixOf?]

theorem token_closing {c : Char} {mark : Token}
    (hc : (c = ']' ∧ mark = .flowSequenceEnd) ∨ (c = '\x7d' ∧ mark = .flowMappingEnd))
    (s : Scanner) (t : Text) : s.token c t = s.closeFlow mark := by
  rcases hc with ⟨rfl, rfl⟩ | ⟨rfl, rfl⟩
  all_goals
    simp [Scanner.token, opensWith, documentStartMark, documentEndMark, List.isPrefixOf?]

def between (p : Place) (rest : Text) (columns : List Nat) (tokens : List Token) : Scanner :=
  { rest, place := p, tokens, columns, outer := [none], keyAllowed := true }

theorem openFlow_scanner {c : Char} {rest : Text} {column : Nat} (p : Place) (start : Token) :
    (scanner ⟨c :: rest, column, columns, tokens, false⟩ p).openFlow start =
      .ok (between (p.next c) rest columns (start :: tokens)) := by
  rw [Scanner.openFlow, saveCandidate_scanner]
  show Except.ok ((Scanner.skip _ 1).push start) = _
  rw [Scanner.skip_one (by rfl)]
  rfl

theorem next_between {c : Char} (hc : isWhite c = false) (hhash : c ≠ '#') (p : Place)
    (rest : Text) :
    (between p (c :: rest) columns tokens).toNextToken.dropStale =
      .ok (between p (c :: rest) columns tokens) := by
  have hskip : Scanner.skipWhite true true false (c :: rest) = (true, c :: rest) := by
    simp only [isWhite, isGap, Bool.or_eq_false_iff, beq_eq_false_iff_ne] at hc
    simp [Scanner.skipWhite, hc, hhash]
  have hnext : (between p (c :: rest) columns tokens).toNextToken =
      between p (c :: rest) columns tokens := by
    show (Scanner.moveTo _ (Scanner.skipWhite true true false (c :: rest)).2).allowKey
      (Scanner.skipWhite true true false (c :: rest)).1 = _
    rw [hskip, Scanner.moveTo_append [] (by rfl)]
    rfl
  rw [hnext]
  rfl

theorem closeFlow_between {c : Char} {rest : Text} (p : Place) (stop : Token) :
    (between p (c :: rest) columns tokens).closeFlow stop =
      .ok { rest, place := p.next c, tokens := stop :: tokens, columns, keyAllowed := false } := by
  show Except.ok ((Scanner.skip _ 1).push stop) = _
  rw [Scanner.skip_one (by rfl)]
  rfl

theorem leads_brackets {opening closing : Char} {start stop : Token} {column : Nat}
    (hopening : (opening = '[' ∧ start = .flowSequenceStart) ∨
      (opening = '\x7b' ∧ start = .flowMappingStart))
    (hclosing : (closing = ']' ∧ stop = .flowSequenceEnd) ∨
      (closing = '\x7d' ∧ stop = .flowMappingEnd)) (hword : IsWordStart word) :
    Leads ⟨opening :: closing :: '\n' :: word, column, columns, tokens, false⟩
      (dedent ⟨word, 0, columns, stop :: start :: tokens, true⟩) := by
  have hwhite : isWhite closing = false ∧ closing ≠ '#' := by
    rcases hclosing with ⟨rfl, -⟩ | ⟨rfl, -⟩ <;> decide
  intro ts hts
  refine Yields.of_token rfl ?_
  intro p _
  refine ⟨_, (token_bracket hopening _ _).trans (openFlow_scanner p start), by simp [between], ?_⟩
  refine Scanner.Scans.step (next_between hwhite.1 hwhite.2 _ _) rfl
    ((token_closing hclosing _ _).trans (closeFlow_between _ stop)) (by simp [between]) ?_
  apply hts
  exact reaches_line (p := (p.next opening).next closing) (n := 0) [] ['\n'] [] rfl rfl rfl (by simp)
    hword rfl rfl rfl (by simp)

end Stand
end DiffBudget.Yaml
