import DiffBudget.Config.Reader
import DiffBudget.Proofs.Text.Table
import DiffBudget.Proofs.Yaml.Composing
import DiffBudget.Proofs.Yaml.Numbers

/-!
# A configuration is read back

Every value of a written configuration is read as what it was, and every field is set once. A
field that was left out keeps its default, which is what it had.
-/
namespace DiffBudget.Config

open Yaml (Node Document Value)

variable {d : Document}

/-! ## Values -/

theorem readText_ofText (t : Text) : readText d (.ofText t) = .ok t := rfl

theorem readText_ofWord (t : Text) : readText d (.ofWord t) = .ok t := rfl

theorem readNumber_ofNat {n : Nat} (h : n ≤ maxNumber) :
    readNumber d (.ofWord (Text.ofNat n)) = .ok n := by
  simp [readNumber, Document.follow, Node.ofWord, Yaml.natural?_ofNat, standsFor, h]

theorem readOptionalNumber_ofNat {n : Nat} (h : n ≤ maxNumber) :
    readOptionalNumber d (.ofWord (Text.ofNat n)) = .ok (some n) := by
  have hempty : (Text.ofNat n).isEmpty = false := List.isEmpty_eq_false_iff.mpr Nat.toDigits_ne_nil
  show (if (Text.ofNat n).isEmpty || Yaml.isNullWord (Text.ofNat n) then Except.ok none
    else (readNumber d (.ofWord (Text.ofNat n))).map some) = _
  rw [hempty, Yaml.isNullWord_ofNat, readNumber_ofNat h]
  rfl

theorem readFlag_word (b : Bool) :
    readFlag d (.ofWord (if b then "true".toList else "false".toList)) = .ok b := by
  cases b <;> rfl

theorem mapM_map_ok {ε α β γ : Type} {f : α → β} {g : β → Except ε γ} {h : α → γ} {as : List α}
    (hok : ∀ a ∈ as, g (f a) = .ok (h a)) : (as.map f).mapM g = .ok (as.map h) := by
  induction as with
  | nil => rfl
  | cons a as ih =>
    rw [List.map_cons, List.mapM_cons, hok a List.mem_cons_self,
      ih fun b hb => hok b (List.mem_cons_of_mem a hb)]
    rfl

theorem readTexts_list (items : List Text) :
    readTexts d (Value.node (.list items)) = .ok items := by
  have hread : (items.map Node.ofText).mapM (readText d) = .ok (items.map id) :=
    mapM_map_ok fun t _ => readText_ofText t
  rw [List.map_id] at hread
  exact hread

theorem readLimits_table {t : TextTable Nat} (h : ∀ e ∈ t.entries, e.2 ≤ maxNumber) :
    readLimits d (Value.node (.table t.entries)) = .ok t := by
  have hread : (t.entries.map fun e => (Node.ofText e.1, Node.ofWord (Text.ofNat e.2))).mapM
      (fun e => do return (← readText d e.1, ← readNumber d e.2)) = .ok (t.entries.map id) := by
    apply mapM_map_ok
    intro e he
    show (readNumber d (.ofWord (Text.ofNat e.2)) >>= fun n => Except.ok (e.1, n)) = _
    rw [readNumber_ofNat (h e he)]
    rfl
  rw [List.map_id] at hread
  show ((t.entries.map fun e => (Node.ofText e.1, Node.ofWord (Text.ofNat e.2))).mapM
    (fun e => do return (← readText d e.1, ← readNumber d e.2)) >>= fun es =>
      Except.ok (TextTable.ofList es)) = _
  rw [hread]
  exact congrArg Except.ok t.ofList_entries

/-! ## Fields -/

def numbers (c : Config) : List Nat :=
  c.maxModelTokens.toList ++ c.modelTokenLimits.entries.map (·.2) ++
    [c.contextLinesBefore, c.contextLinesAfter, c.softReserveTokens, c.hardReserveTokens]

def give (c a : Config) : ConfigField → Config
  | .model => { a with model := c.model }
  | .maxModelTokens => { a with maxModelTokens := c.maxModelTokens }
  | .modelTokenLimits => { a with modelTokenLimits := c.modelTokenLimits }
  | .contextLinesBefore => { a with contextLinesBefore := c.contextLinesBefore }
  | .contextLinesAfter => { a with contextLinesAfter := c.contextLinesAfter }
  | .lineNumbers => { a with lineNumbers := c.lineNumbers }
  | .noExtendSuffixes => { a with noExtendSuffixes := c.noExtendSuffixes }
  | .softReserveTokens => { a with softReserveTokens := c.softReserveTokens }
  | .hardReserveTokens => { a with hardReserveTokens := c.hardReserveTokens }
  | .ignoreGlobs => { a with ignoreGlobs := c.ignoreGlobs }
  | .ignoreRegex => { a with ignoreRegex := c.ignoreRegex }

variable {c : Config}

theorem mem_numbers (h : ∀ n ∈ c.numbers, n ≤ maxNumber) :
    (∀ n ∈ c.maxModelTokens, n ≤ maxNumber) ∧
      (∀ e ∈ c.modelTokenLimits.entries, e.2 ≤ maxNumber) ∧
        c.contextLinesBefore ≤ maxNumber ∧ c.contextLinesAfter ≤ maxNumber ∧
          c.softReserveTokens ≤ maxNumber ∧ c.hardReserveTokens ≤ maxNumber := by
  refine ⟨?_, ?_, h _ ?_, h _ ?_, h _ ?_, h _ ?_⟩
  · intro n hn
    apply h
    simp [numbers, Option.mem_def.mp hn]
  · intro e he
    apply h
    rw [numbers, List.mem_append, List.mem_append]
    exact .inl (.inr (List.mem_map_of_mem he))
  all_goals simp [numbers]

theorem setField_value (hnumbers : ∀ n ∈ c.numbers, n ≤ maxNumber) (a : Config) {f : ConfigField}
    {v : Value} (hv : c.value? f = some v) : setField d a v.node f = .ok (c.give a f) := by
  obtain ⟨hcap, hlimits, hbefore, hafter, hsoft, hhard⟩ := mem_numbers hnumbers
  cases f with
  | maxModelTokens =>
    cases hc : c.maxModelTokens with
    | none => simp [value?, hc] at hv
    | some n =>
      simp only [value?, hc, Option.map_some, Option.some.injEq] at hv
      subst hv
      show (readOptionalNumber d (.ofWord (Text.ofNat n)) >>= fun n =>
        Except.ok { a with maxModelTokens := n }) = _
      rw [readOptionalNumber_ofNat (hcap n hc), give, hc]
      rfl
  | modelTokenLimits =>
    cases hv
    show (readLimits d (Value.node (.table c.modelTokenLimits.entries)) >>= fun t =>
      Except.ok { a with modelTokenLimits := t }) = _
    rw [readLimits_table hlimits]
    rfl
  | contextLinesBefore | contextLinesAfter | softReserveTokens | hardReserveTokens =>
    cases hv
    show (readNumber d (.ofWord (Text.ofNat _)) >>= _) = _
    rw [readNumber_ofNat (by assumption)]
    rfl
  | lineNumbers =>
    cases hv
    show (readFlag d (.ofWord (if c.lineNumbers then "true".toList else "false".toList)) >>= _) = _
    rw [readFlag_word]
    rfl
  | model =>
    cases hv
    rfl
  | noExtendSuffixes | ignoreGlobs | ignoreRegex =>
    cases hv
    show (readTexts d (Value.node (.list _)) >>= _) = _
    rw [readTexts_list]
    rfl

def written (c : Config) (fs : List ConfigField) : List (Text × Value) :=
  fs.filterMap fun f => (c.value? f).map fun v => (f.name, v)

theorem setFields_written (hnumbers : ∀ n ∈ c.numbers, n ≤ maxNumber) {fs : List ConfigField}
    (hnodup : fs.Nodup) : ∀ (a : Config) (seen : List ConfigField), (∀ f ∈ fs, f ∉ seen) →
      setFields d a seen ((c.written fs).map fun e => (.ofWord e.1, e.2.node)) =
        .ok ((fs.filter fun f => (c.value? f).isSome).foldl c.give a) := by
  induction fs with
  | nil => intro a seen _; rfl
  | cons f fs ih =>
    intro a seen hseen
    obtain ⟨hf, hnodup⟩ := List.nodup_cons.mp hnodup
    cases hv : c.value? f with
    | none =>
      have hrest := ih hnodup a seen fun g hg => hseen g (List.mem_cons_of_mem f hg)
      simpa [written, hv] using hrest
    | some v =>
      have hnew : seen.contains f = false := by
        rw [← Bool.not_eq_true, List.contains_iff_mem]
        exact hseen f List.mem_cons_self
      have hrest := ih hnodup (c.give a f) (f :: seen) (by
        intro g hg
        rw [List.mem_cons, not_or]
        exact ⟨fun h => hf (h ▸ hg), hseen g (List.mem_cons_of_mem f hg)⟩)
      have hwritten : (c.written (f :: fs)).map (fun e => (Node.ofWord e.1, e.2.node)) =
          (.ofWord f.name, v.node) :: (c.written fs).map fun e => (Node.ofWord e.1, e.2.node) := by
        simp [written, hv]
      have hfilter : (f :: fs).filter (fun f => (c.value? f).isSome) =
          f :: fs.filter fun f => (c.value? f).isSome := by
        simp [hv]
      rw [hwritten, hfilter, List.foldl_cons, ← hrest, setFields, readText_ofWord]
      simp only [bind, Except.bind, ConfigField.ofName?_name, hnew, setField_value hnumbers a hv]
      rfl

theorem foldl_give (c : Config) :
    (ConfigField.all.filter fun f => (c.value? f).isSome).foldl c.give {} = c := by
  obtain ⟨model, cap, limits, before, after, lineNumbers, suffixes, soft, hard, globs, regex⟩ := c
  cases cap <;> rfl

theorem isWord_name (f : ConfigField) : Yaml.IsWord f.name ∧ f.name.length ≤ 1024 := by
  cases f <;> decide

theorem isWritable_value {f : ConfigField} {v : Value} (hv : c.value? f = some v) :
    v.IsWritable := by
  have hflag : ∀ b : Bool, Yaml.IsWord (if b then "true".toList else "false".toList) := by decide
  cases f with
  | maxModelTokens =>
    obtain ⟨n, -, rfl⟩ := Option.map_eq_some_iff.mp hv
    exact Yaml.isWord_ofNat n
  | contextLinesBefore | contextLinesAfter | softReserveTokens | hardReserveTokens =>
    cases hv
    exact Yaml.isWord_ofNat _
  | lineNumbers =>
    cases hv
    exact hflag c.lineNumbers
  | model | modelTokenLimits | noExtendSuffixes | ignoreGlobs | ignoreRegex =>
    cases hv
    trivial

theorem isField_written (c : Config) (fs : List ConfigField) :
    ∀ e ∈ c.written fs, Yaml.IsField e := by
  intro e he
  obtain ⟨f, -, hf⟩ := List.mem_filterMap.mp he
  obtain ⟨v, hv, rfl⟩ := Option.map_eq_some_iff.mp hf
  obtain ⟨hname, hreach⟩ := isWord_name f
  exact ⟨hname, hreach, isWritable_value hv⟩

theorem ofStream_toYaml (hnumbers : ∀ n ∈ c.numbers, n ≤ maxNumber) :
    ofStream c.toYaml = .ok c := by
  have hparse : Document.parse c.toYaml =
      .ok (some ⟨Yaml.Composing.documentNode (c.written ConfigField.all), []⟩) :=
    Yaml.parse_writeDocument (List.cons_ne_nil _ _) (isField_written c ConfigField.all)
  rw [ofStream, hparse]
  show setFields _ {} [] ((c.written ConfigField.all).map fun e => (.ofWord e.1, e.2.node)) = _
  rw [setFields_written hnumbers (by decide) {} [] (by simp), foldl_give]

/-- A valid configuration is read back from the text it is written as. -/
theorem ofYaml_toYaml (c : Config) (limits : PatternLimits) (hvalid : c.validate limits = .ok ())
    (hnumbers : ∀ n ∈ c.numbers, n ≤ maxNumber) : ofYaml c.toYaml limits = .ok c := by
  rw [ofYaml, ofStream_toYaml hnumbers]
  show (c.validate limits >>= fun _ => Except.ok c) = _
  rw [hvalid]
  rfl

def oddConfig : Config where
  model := "yes".toList
  maxModelTokens := some maxNumber
  modelTokenLimits :=
    ⟨[([], 1), ("\n a\n\n".toList, 7), ("0x1F".toList, 3), (List.replicate 129 'k', 9),
        ("null".toList, 2), ("\u2028: b".toList, maxNumber)], by decide⟩
  lineNumbers := true
  noExtendSuffixes := ["# x".toList, "- a".toList, " 'q' \"r\" \\".toList, "\t\x00".toList]
  softReserveTokens := 0
  ignoreGlobs := ["*.rs".toList, "[ab]".toList]
  ignoreRegex := ["a: b".toList, "~".toList]

theorem ofYaml_toYaml_oddConfig :
    oddConfig.validate .estimated = .ok () ∧ (∀ n ∈ oddConfig.numbers, n ≤ maxNumber) ∧
      ofYaml oddConfig.toYaml .estimated = .ok oddConfig := by
  have hvalid : oddConfig.validate .estimated = .ok () := by decide +kernel
  have hnumbers : ∀ n ∈ oddConfig.numbers, n ≤ maxNumber := by decide +kernel
  exact ⟨hvalid, hnumbers, ofYaml_toYaml oddConfig .estimated hvalid hnumbers⟩

end DiffBudget.Config
