import DiffBudget.Proofs.Regex.ClassClosing
import Mathlib.Data.List.Basic

/-!
# A closing parenthesis behind an item

With the parenthesis behind it an item reads as before, apart from one that is cut off. Flags and
escapes that are cut off may take the parenthesis for their own, and leave nothing.
-/
namespace DiffBudget.Regex

variable {t t' : Text} {f : Flags}

/-! ## Counted repetitions -/

@[simp] theorem decimalDigits_nil (fuel : Nat) : decimalDigits f fuel [] = ([], []) := by
  cases fuel <;> rfl

theorem decimalDigits_of_not {c : Char} (hc : Text.isDigit c = false) (fuel : Nat) (t : Text) :
    decimalDigits f fuel (c :: t) = ([], c :: t) := by
  cases fuel with
  | zero => rfl
  | succ fuel => simp [decimalDigits, hc]

theorem decimalDigits_closes (h : Closed t t') {fuel fuel' : Nat} (hfuel : t.length ≤ fuel)
    (hfuel' : t'.length ≤ fuel') :
    SameValue t t' (decimalDigits f fuel t) (decimalDigits f fuel' t') := by
  have hstop : ∀ {s s' : Text}, Closed s s' → SameValue (α := Text) s s' ([], s) ([], s') :=
    fun hs => ⟨rfl, hs, Nat.le_refl _, Nat.le_refl _⟩
  have hmark : Text.isDigit ')' = false := by decide
  induction fuel generalizing t t' fuel' with
  | zero =>
    obtain rfl := List.eq_nil_of_length_eq_zero (Nat.le_zero.mp hfuel)
    cases h with
    | nil => simpa using hstop .nil
    | mark => simpa [decimalDigits_of_not (f := f) hmark] using hstop .mark
  | succ fuel ih =>
    cases h with
    | nil => simpa using hstop .nil
    | mark => simpa [decimalDigits_of_not (f := f) hmark] using hstop .mark
    | @cons c t t' h =>
      cases hc : Text.isDigit c with
      | false =>
        rw [decimalDigits_of_not hc, decimalDigits_of_not hc]
        exact hstop (h.cons c)
      | true =>
        obtain ⟨fuel', rfl⟩ := Nat.exists_eq_add_one.mpr (Nat.zero_lt_of_lt hfuel')
        have hlength := length_skip_le f t
        have hlength' := length_skip_le f t'
        have hsame := ih (h.skip f) (Nat.le_trans hlength (Nat.le_of_succ_le_succ hfuel))
          (Nat.le_trans hlength' (Nat.le_of_succ_le_succ hfuel'))
        refine ⟨?_, ?_, ?_, ?_⟩
        · simp [decimalDigits, hc, hsame.value]
        · simpa [decimalDigits, hc] using hsame.rest
        · simpa [decimalDigits, hc] using Nat.le_succ_of_le (Nat.le_trans hsame.length hlength)
        · simpa [decimalDigits, hc] using Nat.le_succ_of_le (Nat.le_trans hsame.length' hlength')

def decimalOf (ds : Text) : Except Fault (Option Nat) :=
  if ds.isEmpty then .ok none
  else if Text.valueIn 10 Text.decimalDigit ds < 4294967296 then
    .ok (some (Text.valueIn 10 Text.decimalDigit ds))
  else .error .decimalInvalid

theorem decimal_eq (f : Flags) (t : Text) :
    decimal f t = (decimalOf (decimalDigits f t.length (t.dropWhile isBlank)).1).map fun n =>
      (n, (decimalDigits f t.length (t.dropWhile isBlank)).2.dropWhile isBlank) := by
  unfold decimal decimalOf
  dsimp only
  split
  · rfl
  · split <;> rfl

theorem decimal_closes (h : Closed t t') :
    Closes (SameValue t t') (fun _ => False) (decimal f t) (decimal f t') := by
  have hblank := (List.dropWhile_suffix (l := t) isBlank).length_le
  have hblank' := (List.dropWhile_suffix (l := t') isBlank).length_le
  have hdigits := (decimalDigits_closes (f := f) h.dropBlanks hblank hblank').mono hblank hblank'
  rw [decimal_eq, decimal_eq, hdigits.value]
  apply closes_map hdigits.rest.dropBlanks
  · exact Nat.le_trans (List.dropWhile_suffix _).length_le hdigits.length
  · exact Nat.le_trans (List.dropWhile_suffix _).length_le hdigits.length'

theorem decimal_mark : decimal f [')'] = .ok (none, [')']) := by
  have hmark : Text.isDigit ')' = false := by decide
  rw [decimal_eq, show List.dropWhile isBlank [')'] = [')'] from rfl, decimalDigits_of_not hmark]
  rfl

theorem upperBound_eq {c : Char} (hc : c ≠ '\x7d') (n : Nat) (t : Text) :
    upperBound f n (c :: t) = decimal f (c :: t) >>= fun p =>
      match p.1 with
      | none => .error .repetitionEmpty
      | some m => .ok ((n, some m), p.2) := by
  have hhead : (c :: t).head? ≠ some '\x7d' := by simp [hc]
  rw [upperBound, if_neg hhead]
  apply congrArg
  funext ⟨most, rest⟩
  cases most <;> rfl

theorem upperBound_closes (h : Closed t t') (c : Char) (n : Nat) :
    Closes (SameValue (c :: t) (c :: t')) (fun _ => False) (upperBound f n (c :: t))
      (upperBound f n (c :: t')) := by
  by_cases hc : c = '\x7d'
  · subst hc
    exact .same ⟨rfl, h.cons _, Nat.le_refl _, Nat.le_refl _⟩
  · rw [upperBound_eq hc, upperBound_eq hc]
    apply (decimal_closes (h.cons c)).bind
    · intro p p' hsame
      rw [hsame.value]
      cases p.1 with
      | none => exact .failed
      | some m => exact .same ⟨rfl, hsame.rest, hsame.length, hsame.length'⟩
    · intro p e hlost
      exact hlost.elim

theorem upperBound_mark (n : Nat) : upperBound f n [')'] = .error .repetitionEmpty := by
  rw [upperBound_eq (by decide), decimal_mark]
  rfl

theorem upperCount_closes (h : Closed t t') (least : Option Nat) :
    Closes (SameValue t t') ItemLost (upperCount f least t) (upperCount f least t') := by
  cases h with
  | nil => exact .failed
  | mark =>
    cases least with
    | none => exact .failed
    | some n => exact .lost .mark
  | @cons c t t' h =>
    by_cases hc : c = ','
    · subst hc
      have hskip := h.skip f
      have hlength := length_skip_le f t
      have hlength' := length_skip_le f t'
      simp only [upperCount]
      generalize skip f t = s at hskip hlength ⊢
      generalize skip f t' = s' at hskip hlength' ⊢
      cases hskip with
      | nil => exact .failed
      | mark =>
        cases least with
        | none => exact .failed
        | some n =>
          simp only [upperBound_mark]
          exact .failed
      | @cons d s s' hrest =>
        cases least with
        | none => exact .failed
        | some n =>
          apply ((upperBound_closes hrest d n).grow _ _).mono (fun _ _ hp => hp)
          · intro p hlost
            exact hlost.elim
          · exact Nat.le_succ_of_le hlength
          · exact Nat.le_succ_of_le hlength'
    · cases least with
      | none =>
        simp only [upperCount, hc, false_and, if_false]
        exact .failed
      | some n =>
        simp only [upperCount, hc, false_and, if_false]
        exact .same ⟨rfl, h.cons c, Nat.le_refl _, Nat.le_refl _⟩

theorem closeCounts_of_ne {c : Char} (hc : c ≠ '\x7d') (bounds : Nat × Option Nat) (t : Text) :
    closeCounts f bounds (c :: t) = .error .repetitionUnclosed := by
  rw [closeCounts]
  intro s heq
  exact hc (List.cons.inj heq).1

theorem closeCounts_closes (h : Closed t t') (bounds : Nat × Option Nat) :
    Closes (SameValue t t') (fun _ => False) (closeCounts f bounds t) (closeCounts f bounds t') := by
  cases h with
  | nil => exact .failed
  | mark => exact .failed
  | @cons c t t' h =>
    by_cases hc : c = '\x7d'
    · subst hc
      rw [closeCounts, closeCounts]
      split
      · exact .failed
      · refine .same ⟨rfl, (h.skip f).dropLazy, ?_, ?_⟩
        · exact Nat.le_succ_of_le
            (Nat.le_trans (length_dropLazy_le _) (length_skip_le f t))
        · exact Nat.le_succ_of_le
            (Nat.le_trans (length_dropLazy_le _) (length_skip_le f t'))
    · rw [closeCounts_of_ne hc, closeCounts_of_ne hc]
      exact .failed

theorem closeCounts_of_lost {s : Text} (h : Closed [] s) (bounds : Nat × Option Nat) :
    ∃ e, closeCounts f bounds s = .error e := by
  cases h <;> exact ⟨_, rfl⟩

theorem counts_eq (f : Flags) (t : Text) :
    counts f t =
      if (skip f t).isEmpty then .error .repetitionUnclosed
      else
        decimal f (skip f t) >>= fun p =>
          upperCount f p.1 p.2 >>= fun q => closeCounts f q.1 q.2 := by
  rfl

theorem counts_closes (h : Closed t t') :
    Closes (SameValue t t') (fun _ => False) (counts f t) (counts f t') := by
  have hskip := h.skip f
  have hlength := length_skip_le f t
  have hlength' := length_skip_le f t'
  rw [counts_eq, counts_eq]
  generalize skip f t = s at hskip hlength ⊢
  generalize skip f t' = s' at hskip hlength' ⊢
  cases hskip with
  | nil => exact .failed
  | mark =>
    rw [decimal_mark]
    exact .failed
  | @cons c s s' hrest =>
    apply Closes.grow _ hlength hlength'
    apply (decimal_closes (hrest.cons c)).bind
    · intro p p' hsame
      rw [hsame.value]
      apply (upperCount_closes hsame.rest p.1).bind
      · intro q q' hq
        rw [hq.value]
        apply (closeCounts_closes hq.rest q.1).grow
        · exact Nat.le_trans hq.length hsame.length
        · exact Nat.le_trans hq.length' hsame.length'
      · intro q e hlost
        exact failed_of (closeCounts_of_lost hlost _)
    · intro p e hlost
      exact hlost.elim

/-! ## Groups -/

theorem Closes.map {α β : Type} {x x' : Except Fault (α × Text)} {Lost : β × Text → Prop}
    (h : Closes (SameValue t t') (fun _ => False) x x') (g : α → β) :
    Closes (SameValue t t') Lost (x.map fun p => (g p.1, p.2)) (x'.map fun p => (g p.1, p.2)) := by
  cases h with
  | same hsame =>
    exact .same ⟨congrArg g hsame.value, hsame.rest, hsame.length, hsame.length'⟩
  | lost hlost => exact hlost.elim
  | failed => exact .failed

theorem groupName_closes (h : Closed t t') (names : List Text) :
    Closes (SameValue t t') (fun _ => False) (groupName names t) (groupName names t') := by
  have hle := (List.dropWhile_suffix (l := t) (· != '>')).length_le
  have hle' := (List.dropWhile_suffix (l := t') (· != '>')).length_le
  unfold groupName
  rcases dropWhile_closes h (p := (· != '>')) (by decide) with
    ⟨hnone, hnone'⟩ | ⟨c, s, s', hs, hs', hrest, htaken⟩
  · rw [hnone, hnone']
    dsimp only
    split
    · split <;> exact .failed
    · split <;> exact .failed
  · rw [hs] at hle ⊢
    rw [hs'] at hle' ⊢
    rw [htaken]
    dsimp only
    split
    · exact .failed
    · split
      · exact .failed
      · split
        · exact .failed
        · exact .same ⟨rfl, hrest, Nat.le_of_succ_le hle, Nat.le_of_succ_le hle'⟩

theorem flagList_closes (h : Closed t t') (seen : List Char) :
    Closes (SameValue t t') UsedUp (flagList f seen t) (flagList f seen t') := by
  induction h generalizing f seen with
  | nil => exact .failed
  | mark =>
    simp only [flagList, or_true, if_true]
    split
    · exact .failed
    · exact .lost rfl
  | @cons c t t' h ih =>
    rw [flagList, flagList]
    split
    · split
      · exact .failed
      · exact .same ⟨rfl, h, Nat.le_succ _, Nat.le_succ _⟩
    · split
      · split
        · exact .failed
        · exact (ih _).grow (Nat.le_succ _) (Nat.le_succ _)
      · split
        · exact .failed
        · split
          · exact .failed
          · exact (ih _).grow (Nat.le_succ _) (Nat.le_succ _)

def Reading.withFlags (r : Reading) (p : Flags × List Char × Char) : Except Fault Reading :=
  if p.2.2 = ')' then
    if p.2.1.isEmpty then .error .repetitionMissing
    else .ok { r with flags := p.1, items := .flags :: r.items }
  else .ok (r.openGroup p.1)

theorem flagGroup_eq (r : Reading) (t : Text) :
    flagGroup r t = flagList r.flags [] t >>= fun p =>
      (r.withFlags p.1).map fun r => (r, p.2) := by
  unfold flagGroup
  apply congrArg
  funext ⟨⟨flags, seen, mark⟩, rest⟩
  dsimp only [Reading.withFlags]
  split
  · split <;> rfl
  · rfl

theorem flagGroup_closes (h : Closed t t') (r : Reading) :
    Closes (SameValue t t') UsedUp (flagGroup r t) (flagGroup r t') := by
  rw [flagGroup_eq, flagGroup_eq]
  apply (flagList_closes h []).bind
  · intro p p' hsame
    rw [hsame.value]
    exact closes_map hsame.rest hsame.length hsame.length' _ _
  · intro p e hlost
    cases r.withFlags p.1 with
    | error e' => exact .failed
    | ok r => exact .lost hlost

theorem flagGroup_mark (r : Reading) : flagGroup r [')'] = .error .repetitionMissing := by
  rw [flagGroup_eq]
  rfl

theorem isPrefixOf?_closes (h : Closed t t') {l : Text} (hl : ')' ∉ l) :
    (l.isPrefixOf? t = none ∧ l.isPrefixOf? t' = none) ∨
      ∃ s s', l.isPrefixOf? t = some s ∧ l.isPrefixOf? t' = some s' ∧ Closed s s' ∧
        s.length ≤ t.length ∧ s'.length ≤ t'.length := by
  induction h generalizing l with
  | nil =>
    cases l with
    | nil => exact .inr ⟨[], [], rfl, rfl, .nil, Nat.le_refl _, Nat.le_refl _⟩
    | cons a l => exact .inl ⟨rfl, rfl⟩
  | mark =>
    cases l with
    | nil => exact .inr ⟨[], [')'], rfl, rfl, .mark, Nat.le_refl _, Nat.le_refl _⟩
    | cons a l =>
      have ha : (a == ')') = false := by
        rw [beq_eq_false_iff_ne]
        intro ha
        exact hl (ha ▸ List.mem_cons_self)
      exact .inl ⟨rfl, by simp [List.isPrefixOf?, ha]⟩
  | @cons c t t' h ih =>
    cases l with
    | nil => exact .inr ⟨_, _, rfl, rfl, h.cons c, Nat.le_refl _, Nat.le_refl _⟩
    | cons a l =>
      by_cases ha : a = c
      · subst ha
        have htail : ')' ∉ l := fun hmem => hl (List.mem_cons_of_mem a hmem)
        simp only [List.isPrefixOf?, beq_self_eq_true, if_true]
        rcases ih htail with hnone | ⟨s, s', hs, hs', hrest, hle, hle'⟩
        · exact .inl hnone
        · exact .inr ⟨s, s', hs, hs', hrest, Nat.le_succ_of_le hle, Nat.le_succ_of_le hle'⟩
      · exact .inl ⟨by simp [List.isPrefixOf?, ha], by simp [List.isPrefixOf?, ha]⟩

theorem lookArounds_closes (h : Closed t t') :
    (lookArounds.any fun l => (l.isPrefixOf? t').isSome) =
      lookArounds.any fun l => (l.isPrefixOf? t).isSome := by
  have hmark : ∀ l ∈ lookArounds, ')' ∉ l := by decide
  rw [Bool.eq_iff_iff, List.any_eq_true, List.any_eq_true]
  have hone : ∀ l ∈ lookArounds, (l.isPrefixOf? t').isSome = (l.isPrefixOf? t).isSome := by
    intro l hl
    rcases isPrefixOf?_closes h (hmark l hl) with ⟨hnone, hnone'⟩ | ⟨s, s', hs, hs', -⟩
    · rw [hnone, hnone']
    · rw [hs, hs']
      rfl
  constructor
  · rintro ⟨l, hl, hsome⟩
    exact ⟨l, hl, hone l hl ▸ hsome⟩
  · rintro ⟨l, hl, hsome⟩
    exact ⟨l, hl, (hone l hl).symm ▸ hsome⟩

theorem nameOpening?_closes (h : Closed t t') :
    (nameOpening? t = none ∧ nameOpening? t' = none) ∨
      ∃ s s', nameOpening? t = some s ∧ nameOpening? t' = some s' ∧ Closed s s' ∧
        s.length ≤ t.length ∧ s'.length ≤ t'.length := by
  unfold nameOpening?
  rcases isPrefixOf?_closes h (l := "?P<".toList) (by decide) with
    ⟨hnone, hnone'⟩ | ⟨s, s', hs, hs', hrest⟩
  · rw [hnone, hnone', Option.none_or, Option.none_or]
    exact isPrefixOf?_closes h (by decide)
  · rw [hs, hs']
    exact .inr ⟨s, s', rfl, rfl, hrest⟩

def unnamed (r : Reading) : Text → Except Fault (Reading × Text)
  | ['?'] => .error .groupUnclosed
  | '?' :: t => flagGroup r t
  | t => .ok (r.openGroup r.flags, t)

theorem openingOf_eq (r : Reading) (t : Text) :
    openingOf r t =
      match nameOpening? t with
      | some t =>
        (groupName r.names t).map fun p => (r.openNamed p.1, p.2)
      | none => unnamed r t :=
  rfl

theorem unnamed_of_ne {c : Char} (hc : c ≠ '?') (r : Reading) (t : Text) :
    unnamed r (c :: t) = .ok (r.openGroup r.flags, c :: t) := by
  rw [unnamed]
  · intro heq
    exact hc (List.cons.inj heq).1
  · intro s heq
    exact hc (List.cons.inj heq).1

theorem unnamed_flags (c : Char) (r : Reading) (t : Text) :
    unnamed r ('?' :: c :: t) = flagGroup r (c :: t) := by
  rw [unnamed]
  intro heq
  cases heq

theorem unnamed_closes (h : Closed t t') (r : Reading) :
    Closes (SameValue t t') UsedUp (unnamed r t) (unnamed r t') := by
  cases h with
  | nil => exact .same ⟨rfl, .nil, Nat.le_refl _, Nat.le_refl _⟩
  | mark => exact .same ⟨rfl, .mark, Nat.le_refl _, Nat.le_refl _⟩
  | @cons c t t' h =>
    by_cases hc : c = '?'
    · subst hc
      cases h with
      | nil => exact .failed
      | mark =>
        rw [unnamed_flags, flagGroup_mark]
        exact .failed
      | @cons d t t' h =>
        rw [unnamed_flags, unnamed_flags]
        exact (flagGroup_closes (h.cons d) r).grow (Nat.le_succ (t.length + 1))
          (Nat.le_succ (t'.length + 1))
    · rw [unnamed_of_ne hc, unnamed_of_ne hc]
      exact .same ⟨rfl, h.cons c, Nat.le_refl _, Nat.le_refl _⟩

theorem openingOf_closes (h : Closed t t') (r : Reading) :
    Closes (SameValue t t') UsedUp (openingOf r t) (openingOf r t') := by
  rw [openingOf_eq, openingOf_eq]
  rcases nameOpening?_closes h with ⟨hnone, hnone'⟩ | ⟨s, s', hs, hs', hrest, hle, hle'⟩
  · rw [hnone, hnone']
    exact unnamed_closes h r
  · rw [hs, hs']
    exact ((groupName_closes hrest r.names).grow hle hle').map r.openNamed

theorem opening_closes (h : Closed t t') (r : Reading) :
    Closes (SameValue t t') UsedUp (opening r t) (opening r t') := by
  have hskip := h.skip r.flags
  rw [opening, opening, lookArounds_closes hskip]
  split
  · exact .failed
  · exact (openingOf_closes hskip r).grow (length_skip_le r.flags t) (length_skip_le r.flags t')

/-! ## Items -/

/-- What an item that was cut off can leave once the parenthesis is there: nothing, or the brace
of a word boundary, which is no repetition. -/
def ItemCut (p : Reading × Text) : Prop :=
  p.2 = [] ∨ ∃ r, p.2 = '\x7b' :: r ∧ skip p.1.flags r = [')']

theorem readItem_counts (r : Reading) (t : Text) :
    readItem r '\x7b' t = counts r.flags t >>= fun p =>
      (r.repeated p.1.1 p.1.2).map fun r => (r, p.2) := by
  rw [readItem]
  apply congrArg
  funext ⟨⟨least, most⟩, rest⟩
  dsimp only
  cases r.repeated least most <;> rfl

theorem readItem_escape (r : Reading) (t : Text) :
    readItem r '\\' t = escape r.flags t >>= fun p =>
      (primitive r.flags p.1).map fun e => (r.pushRegex e, p.2) := by
  rw [readItem]
  apply congrArg
  funext ⟨p, rest⟩
  dsimp only
  cases primitive r.flags p <;> rfl

theorem readItem_closes (h : Closed t t') (r : Reading) (c : Char) :
    Closes (SameValue t t') ItemCut (readItem r c t) (readItem r c t') := by
  have hread : ∀ {α : Type} (x : Except Fault α) (g : α → Reading),
      Closes (SameValue t t') ItemCut (x.map fun a => (g a, t)) (x.map fun a => (g a, t')) :=
    fun x g => closes_map h (Nat.le_refl _) (Nat.le_refl _) x g
  have hlazy : ∀ x : Except Fault Reading, Closes (SameValue t t') ItemCut
      (x.map fun r => (r, dropLazy t)) (x.map fun r => (r, dropLazy t')) :=
    fun x => closes_map h.dropLazy (length_dropLazy_le t) (length_dropLazy_le t') x id
  by_cases hbrace : c = '\x7b'
  · subst hbrace
    rw [readItem_counts, readItem_counts]
    apply (counts_closes h).bind
    · intro p p' hsame
      rw [hsame.value]
      exact closes_map hsame.rest hsame.length hsame.length' _ id
    · intro p e hlost
      exact hlost.elim
  by_cases hback : c = '\\'
  · subst hback
    rw [readItem_escape, readItem_escape]
    apply (escape_closes h).bind
    · intro p p' hsame
      rw [hsame.value]
      exact closes_map hsame.rest hsame.length hsame.length' _ _
    · intro p e hlost
      cases primitive r.flags p.1 with
      | error e' => exact .failed
      | ok e =>
        rcases hlost with hnone | ⟨-, hleft⟩
        · exact .lost (.inl hnone)
        · exact .lost (.inr hleft)
  unfold readItem
  dsimp only
  split
  · exact (opening_closes h r).mono (fun _ _ hp => hp) fun _ => .inl
  · exact hread _ id
  · exact hread (.ok ()) fun _ => r.nextBranch
  · exact (bracketed_closes h).map fun p => r.push ⟨.char p.1, p.2⟩
  · exact hlazy _
  · exact hlazy _
  · exact hlazy _
  · exact absurd rfl hbrace
  · exact absurd rfl hback
  · exact hread _ _
  · exact hread (.ok ()) fun _ => _
  · exact hread (.ok ()) fun _ => _
  · exact hread _ _

end DiffBudget.Regex
