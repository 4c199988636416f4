import DiffBudget.Proofs.Yaml.Document
import DiffBudget.Yaml.Node

/-!
# Nodes of a document

The tokens of a written document compose to a mapping from its names to the nodes of its values.
-/
namespace DiffBudget.Yaml

/-! ## Expected nodes -/

def Node.ofText (t : Text) : Node := scalar t (Style.ofText t) none

def Node.ofWord (t : Text) : Node := scalar t .plain none

def Value.node : Value → Node
  | word t => .ofWord t
  | text t => .ofText t
  | list items => .sequence (items.map .ofText)
  | table entries => .mapping (entries.map fun e => (.ofText e.1, .ofWord (Text.ofNat e.2)))

namespace Composing

variable {s : Composer} {rest : List Token} {n : Nat}

def EndsValue (ts : List Token) : Prop := ts.head? = some .key ∨ ts.head? = some .blockEnd

/-- A reader of the value of an entry, given enough fuel. -/
def ReadsValue (bound : Nat) (ts : List Token) (v : Node) : Prop :=
  ∀ (n : Nat) (s : Composer) (rest : List Token), bound ≤ n → EndsValue rest →
    (nodeUnless blockPairEnds .unindented n).run { s with tokens := ts ++ rest } =
      .ok (v, { s with tokens := rest })

theorem blockPairs_cons {key : Text} {style : Style} {ts : List Token} {v : Node}
    (h : (nodeUnless blockPairEnds .unindented (n + 3)).run { s with tokens := ts ++ rest } =
      .ok (v, { s with tokens := rest })) :
    (blockPairs (n + 4)).run
        { s with tokens := .key :: .scalar key style :: .value :: (ts ++ rest) } =
      (blockPairs (n + 3)).run { s with tokens := rest } >>= fun p =>
        .ok ((.scalar key style none, v) :: p.1, p.2) := by
  show ((nodeUnless blockPairEnds .unindented (n + 3)).run { s with tokens := ts ++ rest } >>=
    fun q => (blockPairs (n + 3)).run q.2 >>= fun p =>
      .ok ((.scalar key style none, q.1) :: p.1, p.2)) = _
  rw [h]
  rfl

theorem blockPairs_run {α : Type} (key : α → Text × Style) (tokens : α → List Token)
    (value : α → Node) (bound : Nat) (es : List α) (rest : List Token)
    (h : ∀ e ∈ es, ReadsValue bound (tokens e) (value e)) (hn : es.length + bound + 4 ≤ n) :
    (blockPairs n).run
        { s with
          tokens :=
            (es.flatMap fun e => .key :: .scalar (key e).1 (key e).2 :: .value :: tokens e) ++
              .blockEnd :: rest } =
      .ok (es.map fun e => (.scalar (key e).1 (key e).2 none, value e),
        { s with tokens := rest }) := by
  induction es generalizing n with
  | nil =>
    obtain ⟨k, rfl⟩ := Nat.exists_eq_add_of_le' (show 1 ≤ n by omega)
    rfl
  | cons e es ih =>
    rw [List.length_cons] at hn
    obtain ⟨k, rfl⟩ := Nat.exists_eq_add_of_le' (show 4 ≤ n by omega)
    have hrest := ih (n := k + 3) (fun e' he' => h e' (List.mem_cons_of_mem e he')) (by omega)
    have hends : EndsValue ((es.flatMap fun e =>
        .key :: .scalar (key e).1 (key e).2 :: .value :: tokens e) ++ .blockEnd :: rest) := by
      cases es with
      | nil => exact .inr rfl
      | cons e' es => exact .inl rfl
    have hvalue := h e List.mem_cons_self (k + 3) s _ (by omega) hends
    rw [List.flatMap_cons, List.append_assoc]
    refine (blockPairs_cons hvalue).trans ?_
    rw [hrest]
    rfl

theorem unindentedItems_run (items : List Text) (hrest : EndsValue rest)
    (hn : items.length + 4 ≤ n) :
    (unindentedItems n).run { s with tokens := items.flatMap itemTokens ++ rest } =
      .ok (items.map .ofText, { s with tokens := rest }) := by
  induction items generalizing n with
  | nil =>
    obtain ⟨k, rfl⟩ := Nat.exists_eq_add_of_le' (show 1 ≤ n by omega)
    cases rest with
    | nil => rcases hrest with h | h <;> cases h
    | cons t rest =>
      rcases hrest with h | h
      all_goals
        cases h
        rfl
  | cons t items ih =>
    rw [List.length_cons] at hn
    obtain ⟨k, rfl⟩ := Nat.exists_eq_add_of_le' (show 4 ≤ n by omega)
    have hitems := ih (n := k + 3) (by omega)
    show ((unindentedItems (k + 3)).run
      { s with tokens := items.flatMap itemTokens ++ rest } >>= fun p =>
        .ok (Node.ofText t :: p.1, p.2)) = _
    rw [hitems]
    rfl

/-! ## Values -/

theorem readsValue_scalar (t : Text) (style : Style) :
    ReadsValue 3 [.scalar t style] (.scalar t style none) := by
  intro n s rest hn _
  obtain ⟨k, rfl⟩ := Nat.exists_eq_add_of_le' hn
  rfl

def opensCollection : Token → Bool
  | .blockEntry | .blockMappingStart | .flowSequenceStart | .flowMappingStart => true
  | _ => false

theorem node_of_content {setting : Setting} {t : Token} {ts : List Token} {v : Node}
    {s' : Composer} (ht : opensCollection t = true)
    (h : (content setting false none (n + 1)).run { s with tokens := t :: ts } = .ok (v, s')) :
    (node setting (n + 2)).run { s with tokens := t :: ts } = .ok (v, s') := by
  cases t with
  | blockEntry | blockMappingStart | flowSequenceStart | flowMappingStart =>
    refine Eq.trans (b := (content setting false none (n + 1)).run { s with tokens := _ :: ts } >>=
      fun p => .ok (p.1, p.2)) rfl ?_
    rw [h]
    rfl
  | _ => cases ht

theorem nodeUnless_of_content {t : Token} {ts : List Token} {v : Node} {s' : Composer}
    (ht : opensCollection t = true)
    (h : (content .unindented false none (n + 1)).run { s with tokens := t :: ts } = .ok (v, s')) :
    (nodeUnless blockPairEnds .unindented (n + 3)).run { s with tokens := t :: ts } =
      .ok (v, s') := by
  have hnode := node_of_content ht h
  cases t with
  | blockEntry | blockMappingStart | flowSequenceStart | flowMappingStart => exact hnode
  | _ => cases ht

theorem readsValue_list (t : Text) (items : List Text) :
    ReadsValue (items.length + 8) ((t :: items).flatMap itemTokens)
      (.sequence ((t :: items).map .ofText)) := by
  intro n s rest hn hrest
  obtain ⟨k, rfl⟩ := Nat.exists_eq_add_of_le' (show 3 ≤ n by omega)
  have hitems := unindentedItems_run (s := s) (n := k) (t :: items) hrest (by
    rw [List.length_cons]
    omega)
  apply nodeUnless_of_content rfl
  show ((unindentedItems k).run
    { s with tokens := (t :: items).flatMap itemTokens ++ rest } >>= fun p =>
      .ok (Node.sequence p.1, p.2)) = _
  rw [hitems]
  rfl

theorem readsValue_table (es : List (Text × Nat)) :
    ReadsValue (es.length + 10) (.blockMappingStart :: es.flatMap entryTokens ++ [.blockEnd])
      (.mapping (es.map fun e => (.ofText e.1, .ofWord (Text.ofNat e.2)))) := by
  intro n s rest hn _
  obtain ⟨k, rfl⟩ := Nat.exists_eq_add_of_le' (show 3 ≤ n by omega)
  have hpairs := blockPairs_run (s := s) (n := k) (fun e => (e.1, Style.ofText e.1))
    (fun e => [.scalar (Text.ofNat e.2) .plain]) (fun e => .ofWord (Text.ofNat e.2)) 3 es rest
    (fun e _ => readsValue_scalar _ _) (by omega)
  rw [List.append_assoc]
  apply nodeUnless_of_content rfl
  show ((blockPairs k).run
    { s with tokens := es.flatMap entryTokens ++ .blockEnd :: rest } >>= fun p =>
      .ok (Node.mapping p.1, p.2)) = _
  refine (congrArg (· >>= fun p => .ok (Node.mapping p.1, p.2)) hpairs).trans ?_
  rfl

theorem ReadsValue.mono {bound bound' : Nat} {ts : List Token} {v : Node}
    (h : ReadsValue bound ts v) (hle : bound ≤ bound') : ReadsValue bound' ts v :=
  fun n s rest hn => h n s rest (Nat.le_trans hle hn)

theorem length_le_flatMap {α β : Type} {f : α → List β} (h : ∀ a, f a ≠ []) (as : List α) :
    as.length ≤ (as.flatMap f).length := by
  induction as with
  | nil => exact Nat.le_refl 0
  | cons a as ih =>
    have hpos := List.length_pos_of_ne_nil (h a)
    rw [List.flatMap_cons, List.length_append, List.length_cons]
    omega

theorem readsValue_value (v : Value) : ReadsValue (v.tokens.length + 10) v.tokens v.node := by
  cases v with
  | word t => exact (readsValue_scalar t .plain).mono (by omega)
  | text t => exact (readsValue_scalar t (Style.ofText t)).mono (by omega)
  | list items =>
    cases items with
    | nil =>
      intro n s rest hn _
      obtain ⟨k, rfl⟩ := Nat.exists_eq_add_of_le' (show 4 ≤ n by omega)
      rfl
    | cons t items =>
      have hlength := length_le_flatMap (f := itemTokens) (by simp [itemTokens])
        (t :: items)
      rw [List.length_cons] at hlength
      refine (readsValue_list t items).mono ?_
      show items.length + 8 ≤ ((t :: items).flatMap itemTokens).length + 10
      omega
  | table entries =>
    cases entries with
    | nil =>
      intro n s rest hn _
      obtain ⟨k, rfl⟩ := Nat.exists_eq_add_of_le' (show 4 ≤ n by omega)
      rfl
    | cons e es =>
      have hlength := length_le_flatMap (f := entryTokens) (by simp [entryTokens])
        (e :: es)
      refine (readsValue_table (e :: es)).mono ?_
      show (e :: es).length + 10 ≤
        (Token.blockMappingStart :: (e :: es).flatMap entryTokens ++ [Token.blockEnd]).length + 10
      simp only [List.length_append, List.length_cons] at hlength ⊢
      omega

/-! ## Documents -/

def documentNode (es : List (Text × Value)) : Node :=
  .mapping (es.map fun e => (.ofWord e.1, e.2.node))

theorem node_document (es : List (Text × Value)) (hn : 4 * (documentTokens es).length + 8 ≤ n) :
    (node .block n).run { s with tokens := documentTokens es } =
      .ok (documentNode es, { s with tokens := [] }) := by
  have hcount := length_le_flatMap (f := fieldTokens) (by simp [fieldTokens]) es
  have hlength : (documentTokens es).length = (es.flatMap fieldTokens).length + 2 := by
    simp [documentTokens]
  obtain ⟨k, rfl⟩ := Nat.exists_eq_add_of_le' (show 2 ≤ n by omega)
  have hpairs := blockPairs_run (s := s) (n := k) (fun e => (e.1, .plain))
    (fun e => e.2.tokens) (fun e => e.2.node) ((es.flatMap fieldTokens).length + 10) es [] (by
      intro e he
      refine (readsValue_value e.2).mono ?_
      have hsub : (fieldTokens e).length ≤ (es.flatMap fieldTokens).length :=
        (List.sublist_flatten_of_mem (List.mem_map_of_mem he)).length_le
      simp only [fieldTokens, List.length_cons] at hsub ⊢
      omega) (by omega)
  apply node_of_content rfl
  show ((blockPairs k).run
    { s with tokens := es.flatMap fieldTokens ++ .blockEnd :: [] } >>= fun p =>
      .ok (Node.mapping p.1, p.2)) = _
  refine (congrArg (· >>= fun p => .ok (Node.mapping p.1, p.2)) hpairs).trans ?_
  rfl

theorem header_run (ts : List Token) :
    header.run { tokens := .blockMappingStart :: ts } =
      .ok (false, { tokens := .blockMappingStart :: ts, handles := defaultHandles }) := by
  have hsame : ((Token.blockMappingStart :: ts).length != (Token.blockMappingStart :: ts).length) =
      false := bne_self_eq_false _
  -- no directive was read, so that the mark of a document is not asked for
  refine Eq.trans (b := (if ((Token.blockMappingStart :: ts).length !=
      (Token.blockMappingStart :: ts).length) = true then
    (throw Fault.unexpectedToken : Composing PUnit) >>= fun _ => pure false
    else pure false : Composing Bool).run _) rfl ?_
  rw [hsame]
  rfl

theorem document_run (es : List (Text × Value)) :
    document.run { tokens := documentTokens es } =
      .ok (⟨documentNode es, []⟩, { tokens := [], handles := defaultHandles }) := by
  have hnode := node_document (s := { tokens := [], handles := defaultHandles }) es (Nat.le_refl _)
  rw [document, StateT.run_bind, documentTokens, List.cons_append, header_run]
  show ((node .block (4 * (documentTokens es).length + 8)).run
    { tokens := documentTokens es, handles := defaultHandles } >>= _) = _
  rw [hnode]
  rfl

end Composing

theorem parse_writeDocument {es : List (Text × Value)} (hne : es ≠ []) (h : ∀ e ∈ es, IsField e) :
    Document.parse (writeDocument es) = .ok (some ⟨Composing.documentNode es, []⟩) := by
  rw [Document.parse, tokens_writeDocument hne h]
  show (Composing.document.run { tokens := documentTokens es } >>= fun p => .ok (some p.1)) = _
  rw [Composing.document_run]
  rfl

end DiffBudget.Yaml
