import DiffBudget.Proofs.Yaml.Layout

/-!
# The tokens of a written document

The tokens of a document are those of its entries, inside a block mapping. All written characters
are allowed in a stream, and none of them is changed before the scanner sees them.
-/
namespace DiffBudget.Yaml

namespace Value

def tokens : Value → List Token
  | word t => [.scalar t .plain]
  | text t => [.scalar t (Style.ofText t)]
  | list [] => [.flowSequenceStart, .flowSequenceEnd]
  | list items => items.flatMap itemTokens
  | table [] => [.flowMappingStart, .flowMappingEnd]
  | table entries => .blockMappingStart :: entries.flatMap entryTokens ++ [.blockEnd]

/-- A word is written as it is: it must read as a plain scalar. -/
def IsWritable : Value → Prop
  | word t => IsWord t
  | _ => True

end Value

structure IsField (e : Text × Value) : Prop where
  name : IsWord e.1
  reach : e.1.length ≤ 1024
  value : e.2.IsWritable

def fieldText (e : Text × Value) : Text := e.1 ++ ':' :: e.2.write

def fieldTokens (e : Text × Value) : List Token :=
  .key :: .scalar e.1 .plain :: .value :: e.2.tokens

namespace Stand

variable {columns : List Nat} {tokens tokens' : List Token} {name word : Text}

theorem isBreak_of_isWord {t : Text} (h : IsWord t) : ∀ c ∈ t, isBreak c = false := by
  intro c hc
  have hbreak := (notSpecial_of_isWordChar (h.2 c hc)).1
  simp only [isAnyBreak, Bool.or_eq_false_iff] at hbreak
  exact hbreak.1.1

theorem readsKey_name (tail : Text) (hopens : Opens 0 columns tokens [0] tokens')
    (hname : IsWord name) (hend : atWordEnd tail = true) :
    ReadsKey ⟨name ++ ':' :: tail, 0, columns, tokens, true⟩ name tail name .plain := by
  refine readsKey_plain rfl hopens.1 (isPlain_of_isWord hname) hname.1 hend ?_
  intro _ c hc
  have hword := hname.2 c (List.mem_of_head? hc)
  exact ⟨ne_of_isWordChar hword (by decide), ne_of_isWordChar hword (by decide)⟩

theorem leads_name (hopens : Opens 0 columns tokens [0] tokens') (hname : IsWord name)
    (hreach : name.length ≤ 1024) (hword : IsWordStart word) :
    Leads ⟨name ++ ':' :: ' ' :: word, 0, columns, tokens, true⟩
      ⟨word, name.length + 2, [0], .value :: .scalar name .plain :: .key :: tokens', false⟩ := by
  have hkey := leads_key rfl rfl hopens.1 (isBreak_of_isWord hname) hreach hword
    (readsKey_name (' ' :: word) hopens hname rfl)
  rw [hopens.2] at hkey
  simpa using hkey

theorem leads_name_line (hopens : Opens 0 columns tokens [0] tokens') (hname : IsWord name)
    (hreach : name.length ≤ 1024) (hword : IsWordStart word) (n : Nat) :
    Leads ⟨name ++ ':' :: '\n' :: (spaces n ++ word), 0, columns, tokens, true⟩
      ⟨word, n, [0], .value :: .scalar name .plain :: .key :: tokens', true⟩ := by
  have hkey := leads_key_line rfl rfl hopens.1 (isBreak_of_isWord hname) hreach hword
    (readsKey_name ('\n' :: (spaces n ++ word)) hopens hname rfl)
  rw [hopens.2, dedent_of_le (by simp)] at hkey
  exact hkey

theorem closeLine_item (t : Text) : closeLine ("- ".toList ++ writeScalar 2 t) = itemText t :=
  closeLine_append _ (writeScalar_ne_nil 2 t)

theorem leads_field {e : Text × Value} (he : IsField e)
    (hopens : Opens 0 columns tokens [0] tokens') (hword : IsWordStart word) :
    Leads ⟨fieldText e ++ word, 0, columns, tokens, true⟩
      ⟨word, 0, [0], (fieldTokens e).reverse ++ tokens', true⟩ := by
  obtain ⟨name, v⟩ := e
  obtain ⟨hname, hreach, hvalue⟩ := he
  have hdeeper : 0 < name.length + 2 := Nat.succ_pos _
  cases v with
  | word t =>
    have htext : fieldText (name, .word t) ++ word =
        name ++ ':' :: ' ' :: (t ++ '\n' :: (spaces 0 ++ word)) := by
      simp [fieldText, Value.write, spaces]
    rw [htext]
    exact (leads_name hopens hname hreach (isWordStart_of_isWord hvalue _)).trans
      (leads_plain (isPlain_of_isWord hvalue) hvalue.1 hdeeper (Nat.le_refl 0) hword)
  | text t =>
    have htext : fieldText (name, .text t) ++ word =
        name ++ ':' :: ' ' :: (closeLine (writeScalar 2 t) ++ (spaces 0 ++ word)) := by
      have hclosed : closeLine (' ' :: writeScalar 2 t) = ' ' :: closeLine (writeScalar 2 t) :=
        closeLine_append [' '] (writeScalar_ne_nil 2 t)
      simp [fieldText, Value.write, hclosed, spaces]
    rw [htext]
    exact (leads_name hopens hname hreach (isWordStart_closeLine 2 t _)).trans
      (leads_scalar t hdeeper (Nat.le_refl 0) hword)
  | list items =>
    cases items with
    | nil =>
      have htext : fieldText (name, .list []) ++ word =
          name ++ ':' :: ' ' :: '[' :: ']' :: '\n' :: word := by
        simp [fieldText, Value.write]
      rw [htext]
      exact (leads_name hopens hname hreach (isWordStart_cons (by rfl) (by decide) _)).trans
        (leads_brackets (.inl ⟨rfl, rfl⟩) (.inl ⟨rfl, rfl⟩) hword)
    | cons t items =>
      have htext : fieldText (name, .list (t :: items)) ++ word =
          name ++ ':' :: '\n' :: (spaces 0 ++ ((t :: items).flatMap itemText ++ word)) := by
        simp only [fieldText, Value.write, closeLine_item]
        simp [spaces]
      rw [htext]
      refine (leads_name_line hopens hname hreach (isWordStart_items (t :: items) hword) 0).trans ?_
      have hreverse : (fieldTokens (name, .list (t :: items))).reverse ++ tokens' =
          ((t :: items).flatMap itemTokens).reverse ++
            .value :: .scalar name .plain :: .key :: tokens' := by
        simp [fieldTokens, Value.tokens]
      rw [hreverse]
      exact leads_items (t :: items) hword
  | table entries =>
    cases entries with
    | nil =>
      have htext : fieldText (name, .table []) ++ word =
          name ++ ':' :: ' ' :: '\x7b' :: '\x7d' :: '\n' :: word := by
        simp [fieldText, Value.write]
      rw [htext]
      exact (leads_name hopens hname hreach (isWordStart_cons (by rfl) (by decide) _)).trans
        (leads_brackets (.inr ⟨rfl, rfl⟩) (.inr ⟨rfl, rfl⟩) hword)
    | cons e es =>
      have htext : fieldText (name, .table (e :: es)) ++ word =
          name ++ ':' :: '\n' :: (spaces 2 ++
            (entryText e ++ ((es.flatMap fun e => tableEntry e.1 e.2) ++ word))) := by
        simp [fieldText, Value.write, tableEntry_eq]
      rw [htext]
      refine (leads_name_line hopens hname hreach (isWordStart_entryText e _) 2).trans ?_
      have htable := leads_table es hword e _ _ _
        (opens_first (.value :: .scalar name .plain :: .key :: tokens'))
      simpa [fieldTokens, Value.tokens] using htable

theorem opens_document : Opens 0 [] [] [0] [.blockMappingStart] := ⟨by simp, fun _ => rfl⟩

theorem opens_field : Opens 0 [0] tokens [0] tokens := ⟨by simp, fun _ => rfl⟩

theorem isWordStart_fields {es : List (Text × Value)} (h : ∀ e ∈ es, IsField e) :
    IsWordStart (es.flatMap fieldText) := by
  cases es with
  | nil =>
    intro c hc
    cases hc
  | cons e es =>
    rw [List.flatMap_cons, fieldText, List.append_assoc]
    exact isWordStart_of_isWord (h e List.mem_cons_self).name _

theorem leads_fields {es : List (Text × Value)} (h : ∀ e ∈ es, IsField e) :
    Leads ⟨es.flatMap fieldText, 0, [0], tokens, true⟩
      ⟨[], 0, [0], (es.flatMap fieldTokens).reverse ++ tokens, true⟩ := by
  induction es generalizing tokens with
  | nil => exact Leads.refl _
  | cons e es ih =>
    have hrest : ∀ e' ∈ es, IsField e' := fun e' he' => h e' (List.mem_cons_of_mem e he')
    rw [List.flatMap_cons, List.flatMap_cons, List.reverse_append, List.append_assoc]
    exact (leads_field (h e List.mem_cons_self) opens_field (isWordStart_fields hrest)).trans
      (ih hrest)

end Stand

def documentTokens (es : List (Text × Value)) : List Token :=
  .blockMappingStart :: es.flatMap fieldTokens ++ [.blockEnd]

theorem writeDocument_eq (es : List (Text × Value)) : writeDocument es = es.flatMap fieldText := rfl

theorem yields_document {es : List (Text × Value)} (hne : es ≠ []) (h : ∀ e ∈ es, IsField e) :
    Stand.Yields ⟨writeDocument es, 0, [], [], true⟩ (documentTokens es) := by
  cases es with
  | nil => exact absurd rfl hne
  | cons e es =>
    have hrest : ∀ e' ∈ es, IsField e' := fun e' he' => h e' (List.mem_cons_of_mem e he')
    have hlead := (Stand.leads_field (h e List.mem_cons_self) Stand.opens_document
      (Stand.isWordStart_fields hrest)).trans (Stand.leads_fields hrest)
    have hend := hlead _ (Stand.yields_end _ _ _ _)
    rw [writeDocument_eq]
    simpa [documentTokens] using hend

/-! ## Characters of a document -/

theorem prints_of_isWord {t : Text} (h : IsWord t) : t.all isPrintable = true :=
  List.all_eq_true.mpr fun c hc => isPrintable_of_isWordChar (h.2 c hc)

theorem prints_itemText (t : Text) : (itemText t).all isPrintable = true := by
  rw [itemText, List.all_append, prints_closeLine (prints_writeScalar 2 t)]
  rfl

theorem prints_entryText (e : Text × Nat) : (entryText e).all isPrintable = true := by
  have hscalar := prints_writeScalar 4 e.1
  have hclosed := prints_closeLine hscalar
  have hnumber := prints_of_isWord (isWord_ofNat e.2)
  have hspaces := prints_spaces 2
  unfold entryText
  split <;> simp only [List.all_append, hscalar, hclosed, hnumber, hspaces] <;> rfl

theorem prints_tableEntry (e : Text × Nat) : (tableEntry e.1 e.2).all isPrintable = true := by
  rw [tableEntry_eq, List.all_append, prints_spaces, prints_entryText]
  rfl

theorem prints_write {v : Value} (hv : v.IsWritable) : v.write.all isPrintable = true := by
  cases v with
  | word t =>
    rw [Value.write, List.all_append, List.all_cons, prints_of_isWord hv]
    rfl
  | text t =>
    refine prints_closeLine ?_
    rw [List.all_cons, prints_writeScalar]
    rfl
  | list items =>
    cases items with
    | nil => decide
    | cons t items =>
      have hitems : ∀ t, (itemText t).all isPrintable = true := prints_itemText
      simp only [Value.write, Stand.closeLine_item, List.all_cons, List.all_flatMap, hitems]
      simp [isPrintable]
  | table entries =>
    cases entries with
    | nil => decide
    | cons e es =>
      simp only [Value.write, List.all_cons, List.all_flatMap, prints_tableEntry]
      simp [isPrintable]

theorem prints_document {es : List (Text × Value)} (h : ∀ e ∈ es, IsField e) :
    (writeDocument es).all isPrintable = true := by
  rw [writeDocument_eq, List.all_flatMap, List.all_eq_true]
  intro e he
  rw [fieldText, List.all_append, List.all_cons, prints_of_isWord (h e he).name,
    prints_write (h e he).value]
  rfl

theorem start_of_prints {t : Text} (h : t.all isPrintable = true) :
    Scanner.start t = { rest := t } := by
  cases t with
  | nil => rfl
  | cons c t =>
    have hc : c ≠ '\ufeff' := by
      rintro rfl
      cases h
    unfold Scanner.start
    split
    · simp_all
    · rfl

theorem tokens_writeDocument {es : List (Text × Value)} (hne : es ≠ []) (h : ∀ e ∈ es, IsField e) :
    Yaml.tokens (writeDocument es) = .ok (documentTokens es) := by
  have hprints := prints_document h
  have hallowed : (writeDocument es).all isAllowed = true := by
    rw [List.all_eq_true] at hprints ⊢
    exact fun c hc => isAllowed_of_isPrintable (hprints c hc)
  have hbreaks : unifyBreaks (writeDocument es) = writeDocument es := by
    apply unifyBreaks_of_plain
    intro c hc
    have hc := List.all_eq_true.mp hprints c hc
    exact ⟨ne_of_isPrintable hc (by decide), ne_of_isPrintable hc (by decide)⟩
  have hreaches : Scanner.Reaches { rest := writeDocument es }
      ⟨writeDocument es, 0, [], [], true⟩ :=
    Scanner.Reaches.of_gap [] rfl rfl (by simp) (Stand.isWordStart_fields h) (by simp)
  rw [Yaml.tokens, if_pos hallowed]
  simp only [hbreaks, start_of_prints hprints]
  exact yields_document hne h _ hreaches _ (Nat.lt_succ_self _)

end DiffBudget.Yaml
