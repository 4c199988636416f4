import DiffBudget.Proofs.Regex.Closing
import Mathlib.Data.List.TakeWhile

/-!
# A closing parenthesis behind a class

A bracketed class ends with its own bracket, so one that is cut off is not saved by a parenthesis:
the parenthesis becomes an item of it, and the bracket is still missing.
-/
namespace DiffBudget.Regex

variable {t t' : Text} {f : Flags}

theorem skip_of_solid {c : Char} (hblank : isBlank c = false) (hremark : c ≠ '#') (t : Text) :
    skip f (c :: t) = c :: t := by
  unfold skip
  split
  · simp [skipRemarks, hblank, hremark]
  · rfl

@[simp] theorem skip_mark : skip f [')'] = [')'] :=
  skip_of_solid (by decide) (by decide) []

/-- What an item of a class that was cut off can end with: at most the parenthesis is left. -/
def ItemLost {α : Type} (p : α × Text) : Prop := Closed [] p.2

theorem classItem_closes (h : Closed t t') (c : Char) :
    Closes (SameValue t t') (EscapeLost f) (classItem f (c :: t)) (classItem f (c :: t')) := by
  by_cases hc : c = '\\'
  · subst hc
    exact escape_closes h
  · simp only [classItem]
    exact .same ⟨rfl, h, Nat.le_refl _, Nat.le_refl _⟩

theorem rangeFrom_of_ne {c : Char} (hc : c ≠ '-') (first : Primitive) (t : Text) :
    rangeFrom f first (c :: t) = (asClass f first).map fun k => (k, c :: t) := by
  rw [rangeFrom]
  · intro h
    cases h
  · intro after heq
    exact hc (List.cons.inj heq).1

theorem rangeFrom_hyphen {c : Char} {after s : Text} (h : skip f after = c :: s)
    (first : Primitive) :
    rangeFrom f first ('-' :: after) =
      if c = ']' ∨ c = '-' then (asClass f first).map fun k => (k, '-' :: after)
      else classItem f (c :: s) >>= fun p => (rangeOf f first p.1).map fun k => (k, p.2) := by
  simp only [rangeFrom, h]
  rfl

theorem rangeOf_look (f : Flags) (first : Primitive) (a : Assertion) :
    ∃ e, rangeOf f first (.look a) = .error e := by
  unfold rangeOf
  cases asBound f first with
  | error e => exact ⟨e, rfl⟩
  | ok c => exact ⟨_, rfl⟩

theorem rangeFrom_closes (h : Closed t t') (first : Primitive) :
    Closes (SameValue t t') ItemLost (rangeFrom f first t) (rangeFrom f first t') := by
  cases h with
  | nil => exact .failed
  | mark =>
    rw [rangeFrom_of_ne (by decide)]
    cases asClass f first with
    | error e => exact .failed
    | ok k => exact .lost .mark
  | @cons c after after' hafter =>
    by_cases hc : c = '-'
    · subst hc
      have hlength := length_skip_le f after
      have hlength' := length_skip_le f after'
      have hskip := hafter.skip f
      generalize hs : skip f after = s at hskip hlength
      generalize hs' : skip f after' = s' at hskip hlength'
      cases hskip with
      | nil =>
        simp only [rangeFrom, hs, hs']
        exact .failed
      | mark =>
        rw [rangeFrom_hyphen hs', if_neg (by decide)]
        simp only [rangeFrom, hs, classItem]
        show Closes _ _ _ ((rangeOf f first _).map _)
        cases rangeOf f first (.literal ')' false) with
        | error e => exact .failed
        | ok k => exact .lost .nil
      | @cons d s s' hrest =>
        rw [rangeFrom_hyphen hs, rangeFrom_hyphen hs']
        split
        · exact closes_map (hafter.cons '-') (Nat.le_refl _) (Nat.le_refl _) _ _
        · have hle : s.length ≤ ('-' :: after).length :=
            Nat.le_of_succ_le (Nat.le_succ_of_le hlength)
          have hle' : s'.length ≤ ('-' :: after').length :=
            Nat.le_of_succ_le (Nat.le_succ_of_le hlength')
          apply ((classItem_closes hrest d).grow hle hle').bind
          · intro p p' hsame
            rw [hsame.value]
            exact closes_map hsame.rest hsame.length hsame.length' _ _
          · intro p e hlost
            rcases hlost with hnone | ⟨⟨a, ha⟩, -⟩
            · cases rangeOf f first p.1 with
              | error e => exact .failed
              | ok k =>
                refine .lost ?_
                show Closed [] p.2
                rw [hnone]
            · obtain ⟨e', he'⟩ := rangeOf_look f first a
              rw [ha, he']
              exact .failed
    · rw [rangeFrom_of_ne hc, rangeFrom_of_ne hc]
      exact closes_map (hafter.cons c) (Nat.le_refl _) (Nat.le_refl _) _ _

theorem classRange_closes (h : Closed t t') (c : Char) :
    Closes (SameValue t t') ItemLost (classRange f (c :: t)) (classRange f (c :: t')) := by
  apply (classItem_closes h c).bind
  · intro p p' hsame
    show Closes _ _ (rangeFrom f p.1 (skip f p.2)) (rangeFrom f p'.1 (skip f p'.2))
    rw [hsame.value]
    exact (rangeFrom_closes (hsame.rest.skip f) p.1).mono
      (fun _ _ hp => hp.mono (Nat.le_trans (length_skip_le f _) hsame.length)
        (Nat.le_trans (length_skip_le f _) hsame.length')) fun _ hp => hp
  · intro p e hlost
    show Closes _ _ _ (rangeFrom f p.1 (skip f p.2))
    rcases hlost with hnone | ⟨⟨a, ha⟩, r, hr, -⟩
    · rw [hnone, skip_nil]
      exact .failed
    · rw [ha, hr, skip_of_solid (by decide) (by decide), rangeFrom_of_ne (by decide)]
      exact .failed

/-! ## The class around the items -/

@[simp] theorem leadingHyphens_nil (fuel : Nat) : leadingHyphens f fuel [] = (0, []) := by
  cases fuel <;> rfl

theorem leadingHyphens_of_ne {c : Char} (hc : c ≠ '-') (fuel : Nat) (t : Text) :
    leadingHyphens f fuel (c :: t) = (0, c :: t) := by
  cases fuel with
  | zero => rfl
  | succ fuel =>
    rw [leadingHyphens]
    intro _ _ _ heq
    exact hc (List.cons.inj heq).1

theorem leadingHyphens_closes (h : Closed t t') {fuel fuel' : Nat} (hfuel : t.length ≤ fuel)
    (hfuel' : t'.length ≤ fuel') :
    SameValue t t' (leadingHyphens f fuel t) (leadingHyphens f fuel' t') := by
  have hstop : ∀ {s s' : Text}, Closed s s' → SameValue (α := Nat) s s' (0, s) (0, s') :=
    fun hs => ⟨rfl, hs, Nat.le_refl _, Nat.le_refl _⟩
  induction fuel generalizing t t' fuel' with
  | zero =>
    obtain rfl := List.eq_nil_of_length_eq_zero (Nat.le_zero.mp hfuel)
    cases h with
    | nil => simpa using hstop .nil
    | mark => simpa [leadingHyphens_of_ne (f := f) (by decide : ')' ≠ '-')] using hstop .mark
  | succ fuel ih =>
    cases h with
    | nil => simpa using hstop .nil
    | mark => simpa [leadingHyphens_of_ne (f := f) (by decide : ')' ≠ '-')] using hstop .mark
    | @cons c t t' h =>
      by_cases hc : c = '-'
      · subst hc
        obtain ⟨fuel', rfl⟩ : ∃ k, fuel' = k + 1 :=
          Nat.exists_eq_add_one.mpr (by simp at hfuel'; omega)
        have hlength := length_skip_le f t
        have hlength' := length_skip_le f t'
        have hsame := ih (h.skip f) (Nat.le_trans hlength (Nat.le_of_succ_le_succ hfuel))
          (Nat.le_trans hlength' (Nat.le_of_succ_le_succ hfuel'))
        refine ⟨?_, hsame.rest, ?_, ?_⟩
        · simp only [leadingHyphens, hsame.value]
        · exact Nat.le_succ_of_le (Nat.le_trans hsame.length hlength)
        · exact Nat.le_succ_of_le (Nat.le_trans hsame.length' hlength')
      · rw [leadingHyphens_of_ne hc, leadingHyphens_of_ne hc]
        exact hstop (h.cons c)

theorem classSign_of_ne {c : Char} {s : Text} (h : skip f t = c :: s) (hc : c ≠ '^') :
    classSign f t = (false, c :: s) := by
  rw [classSign, h]
  split
  · simp_all
  · rfl

theorem classSign_closes (h : Closed t t') : SameValue t t' (classSign f t) (classSign f t') := by
  have hskip := h.skip f
  have hlength := length_skip_le f t
  have hlength' := length_skip_le f t'
  generalize hs : skip f t = s at hskip hlength
  generalize hs' : skip f t' = s' at hskip hlength'
  cases hskip with
  | nil =>
    rw [classSign, classSign, hs, hs']
    exact ⟨rfl, .nil, hlength, hlength'⟩
  | mark =>
    rw [classSign_of_ne hs' (by decide), classSign, hs]
    exact ⟨rfl, .mark, hlength, hlength'⟩
  | @cons c s s' hrest =>
    by_cases hc : c = '^'
    · subst hc
      rw [classSign, classSign, hs, hs']
      refine ⟨rfl, hrest.skip f, ?_, ?_⟩
      · exact Nat.le_trans (length_skip_le f s) (Nat.le_of_succ_le hlength)
      · exact Nat.le_trans (length_skip_le f s') (Nat.le_of_succ_le hlength')
    · rw [classSign_of_ne hs hc, classSign_of_ne hs' hc]
      exact ⟨rfl, hrest.cons c, hlength, hlength'⟩

theorem classFront_eq (f : Flags) (t : Text) :
    classFront f t =
      if 0 < (leadingHyphens f t.length t).1 then
        ((.single '-', (leadingHyphens f t.length t).1), (leadingHyphens f t.length t).2)
      else bracketFront f t :=
  rfl

theorem bracketFront_of_ne {c : Char} (hc : c ≠ ']') (t : Text) :
    bracketFront f (c :: t) = ((.nothing, 0), c :: t) := by
  rw [bracketFront]
  intro s heq
  exact hc (List.cons.inj heq).1

theorem bracketFront_closes (h : Closed t t') :
    SameValue t t' (bracketFront f t) (bracketFront f t') := by
  cases h with
  | nil => exact ⟨rfl, .nil, Nat.le_refl _, Nat.le_refl _⟩
  | mark =>
    rw [bracketFront_of_ne (by decide)]
    exact ⟨rfl, .mark, Nat.le_refl _, Nat.le_refl _⟩
  | @cons c t t' h =>
    by_cases hc : c = ']'
    · subst hc
      exact ⟨rfl, h.skip f, Nat.le_succ_of_le (length_skip_le f t),
        Nat.le_succ_of_le (length_skip_le f t')⟩
    · rw [bracketFront_of_ne hc, bracketFront_of_ne hc]
      exact ⟨rfl, h.cons c, Nat.le_refl _, Nat.le_refl _⟩

theorem classFront_closes (h : Closed t t') :
    SameValue t t' (classFront f t) (classFront f t') := by
  have hhyphens := leadingHyphens_closes (f := f) h (Nat.le_refl _) (Nat.le_refl _)
  rw [classFront_eq, classFront_eq, hhyphens.value]
  split
  · exact ⟨rfl, hhyphens.rest, hhyphens.length, hhyphens.length'⟩
  · exact bracketFront_closes h

theorem classOpening_closes (h : Closed t t') :
    SameValue t t' (classOpening f t) (classOpening f t') := by
  have hsign := classSign_closes (f := f) h
  have hfront := (classFront_closes (f := f) hsign.rest).mono hsign.length hsign.length'
  refine ⟨?_, hfront.rest, hfront.length, hfront.length'⟩
  show ((classSign f t').1, (classFront f (classSign f t').2).1) =
    ((classSign f t).1, (classFront f (classSign f t).2).1)
  rw [hsign.value, hfront.value]

theorem Together.map {α β : Type} {x x' : Option (α × Text)} (h : Together t t' x x')
    (g : α → β) :
    Together t t' (x.map fun p => (g p.1, p.2)) (x'.map fun p => (g p.1, p.2)) := by
  rcases h with ⟨rfl, rfl⟩ | ⟨p, p', rfl, rfl, hsame⟩
  · exact .inl ⟨rfl, rfl⟩
  · exact .inr ⟨_, _, rfl, rfl, congrArg g hsame.value, hsame.rest, hsame.length, hsame.length'⟩

theorem asciiRanges?_closes (h : Closed t t') :
    Together t t' (asciiRanges? t) (asciiRanges? t') := by
  have hle := (List.dropWhile_suffix (l := t) (· != ':')).length_le
  have hle' := (List.dropWhile_suffix (l := t') (· != ':')).length_le
  unfold asciiRanges?
  rcases dropWhile_closes h (p := (· != ':')) (by decide) with
    ⟨hnone, hnone'⟩ | ⟨c, s, s', hs, hs', hrest, htaken⟩
  · rw [hnone, hnone']
    exact .inl ⟨rfl, rfl⟩
  · rw [hs] at hle ⊢
    rw [hs'] at hle' ⊢
    by_cases hc : c = ':'
    · subst hc
      cases hrest with
      | nil => exact .inl ⟨rfl, rfl⟩
      | mark => exact .inl ⟨rfl, rfl⟩
      | @cons d s s' hrest =>
        by_cases hd : d = ']'
        · subst hd
          simp only [htaken]
          cases asciiClasses.lookup (t.takeWhile (· != ':')) with
          | none => exact .inl ⟨rfl, rfl⟩
          | some ranges =>
            exact .inr ⟨_, _, rfl, rfl, rfl, hrest, Nat.le_of_succ_le (Nat.le_of_succ_le hle),
              Nat.le_of_succ_le (Nat.le_of_succ_le hle')⟩
        · exact .inl ⟨by simp [hd], by simp [hd]⟩
    · exact .inl ⟨by simp [hc], by simp [hc]⟩

theorem asciiRanges?_mark : asciiRanges? [')'] = none := by decide

theorem Together.grow {α : Type} {s s' t t' : Text} {x x' : Option (α × Text)}
    (h : Together s s' x x') (hle : s.length ≤ t.length) (hle' : s'.length ≤ t'.length) :
    Together t t' x x' := by
  rcases h with hnone | ⟨p, p', hp, hp', hsame⟩
  · exact .inl hnone
  · exact .inr ⟨p, p', hp, hp', hsame.mono hle hle'⟩

theorem asciiClass?_of_ne {c : Char} (hc : c ≠ ':') (t : Text) : asciiClass? (c :: t) = none := by
  rw [asciiClass?]
  · intro s heq
    exact hc (List.cons.inj heq).1
  · intro s heq
    exact hc (List.cons.inj heq).1

theorem asciiClass?_plain {c : Char} (hc : c ≠ '^') (t : Text) :
    asciiClass? (':' :: c :: t) = (asciiRanges? (c :: t)).map fun p => ((p.1, false), p.2) := by
  rw [asciiClass?]
  intro s heq
  exact hc (List.cons.inj heq).1

theorem asciiClass?_closes (h : Closed t t') :
    Together t t' (asciiClass? t) (asciiClass? t') := by
  cases h with
  | nil => exact .inl ⟨rfl, rfl⟩
  | mark => exact .inl ⟨rfl, asciiClass?_of_ne (by decide) []⟩
  | @cons c t t' h =>
    by_cases hc : c = ':'
    · subst hc
      cases h with
      | nil => exact .inl ⟨rfl, rfl⟩
      | mark => exact .inl ⟨rfl, by rw [asciiClass?_plain (by decide), asciiRanges?_mark]; rfl⟩
      | @cons d t t' h =>
        by_cases hd : d = '^'
        · subst hd
          refine Together.map (Together.grow (asciiRanges?_closes h) ?_ ?_) fun r => (r, true)
          · exact Nat.le_add_right t.length 2
          · exact Nat.le_add_right t'.length 2
        · rw [asciiClass?_plain hd, asciiClass?_plain hd]
          refine Together.map (Together.grow (asciiRanges?_closes (h.cons d)) ?_ ?_)
            fun r => (r, false)
          · exact Nat.le_succ (t.length + 1)
          · exact Nat.le_succ (t'.length + 1)
    · rw [asciiClass?_of_ne hc, asciiClass?_of_ne hc]
      exact .inl ⟨rfl, rfl⟩

theorem setOperator?_closes (h : Closed t t') (c : Char) :
    Together t t' (setOperator? (c :: t)) (setOperator? (c :: t')) := by
  cases h with
  | nil => exact .inl ⟨rfl, rfl⟩
  | mark =>
    refine .inl ⟨rfl, ?_⟩
    rw [setOperator?]
    split
    · next hc =>
      subst hc
      rfl
    · rfl
  | @cons d t t' h =>
    rw [setOperator?, setOperator?]
    split
    · cases setOp? c with
      | none => exact .inl ⟨rfl, rfl⟩
      | some op =>
        exact .inr ⟨(op, t), (op, t'), rfl, rfl, rfl, h, Nat.le_succ t.length,
          Nat.le_succ t'.length⟩
    · exact .inl ⟨rfl, rfl⟩

/-! ## The items of a class -/

theorem classRange_mark : ∃ e, classRange f [')'] = .error e := by
  refine ⟨.classUnclosed, ?_⟩
  show rangeFrom f (.literal ')' false) (skip f []) = _
  rw [skip_nil]
  rfl

variable {negated : Bool} {left : Option (SetOp × CharClass)} {c : CharClass} {n : ClassNesting}
  {s : Text} {fuel : Nat}

theorem classBody_none (h : skip f t = []) :
    classBody f (fuel + 1) negated left c n t = .error .classUnclosed := by
  rw [classBody, h]

theorem classBody_end (h : skip f t = ']' :: s) :
    classBody f (fuel + 1) negated left c n t =
      (negateIf f negated (withCase f (combine f left c))).map fun whole =>
        ((whole, n.depth + 1), s) := by
  rw [classBody, h]
  rfl

def afterAscii (f : Flags) (fuel : Nat) (negated : Bool) (left : Option (SetOp × CharClass))
    (c : CharClass) (n : ClassNesting) (p : (List (Char × Char) × Bool) × Text) :
    Except Fault ((CharClass × Nat) × Text) :=
  negateIf f p.1.2 (withCase f (.union (p.1.1.map fun r => .range r.1 r.2))) >>= fun k =>
    classBody f fuel negated left (.anyOf c k) (n.add 0) p.2

theorem classBody_bracket (h : skip f t = '[' :: s) :
    classBody f (fuel + 1) negated left c n t =
      match asciiClass? s with
      | some p => afterAscii f fuel negated left c n p
      | none =>
        classBody f fuel (classOpening f s).1.1 none (classOpening f s).1.2.1
          { items := (classOpening f s).1.2.2 } (classOpening f s).2 >>= fun p =>
            classBody f fuel negated left (.anyOf c p.1.1) (n.add p.1.2) p.2 := by
  simp only [classBody, h]
  cases asciiClass? s <;> rfl

theorem classBody_item {d : Char} (h : skip f t = d :: s) (hclose : d ≠ ']') (hopen : d ≠ '[') :
    classBody f (fuel + 1) negated left c n t =
      match setOperator? (d :: s) with
      | some p =>
        classBody f fuel negated (some (p.1, combine f left c)) .nothing n.operator p.2
      | none =>
        classRange f (d :: s) >>= fun p =>
          classBody f fuel negated left (.anyOf c p.1) (n.add 0) p.2 := by
  rw [classBody, h]
  split
  · simp_all
  · simp_all
  · simp_all
  · cases setOperator? (d :: s) <;> rfl

theorem classBody_mark (h : skip f t = [')']) :
    ∃ e, classBody f (fuel + 1) negated left c n t = .error e := by
  obtain ⟨e, he⟩ := classRange_mark (f := f)
  refine ⟨e, ?_⟩
  rw [classBody_item h (by decide) (by decide), show setOperator? [')'] = none from rfl, he]
  rfl

theorem classBody_of_lost (h : Closed [] s) :
    ∃ e, classBody f fuel negated left c n s = .error e := by
  cases fuel with
  | zero => exact ⟨_, rfl⟩
  | succ fuel =>
    cases h with
    | nil => exact ⟨_, classBody_none (skip_nil f)⟩
    | mark => exact classBody_mark skip_mark

theorem failed_of {ρ : Type} {Same : ρ → ρ → Prop} {Lost : ρ → Prop} {e : Fault}
    {x : Except Fault ρ} (h : ∃ e', x = .error e') : Closes Same Lost (.error e) x := by
  obtain ⟨e', rfl⟩ := h
  exact .failed

theorem classBody_closes (h : Closed t t') {fuel fuel' : Nat} (hfuel : t.length < fuel)
    (hfuel' : t'.length < fuel') :
    Closes (SameValue t t') (fun _ => False) (classBody f fuel negated left c n t)
      (classBody f fuel' negated left c n t') := by
  induction fuel generalizing t t' fuel' negated left c n with
  | zero => exact absurd hfuel (Nat.not_lt_zero _)
  | succ fuel ih =>
    obtain ⟨fuel', rfl⟩ := Nat.exists_eq_add_one.mpr (Nat.zero_lt_of_lt hfuel')
    have hskip := h.skip f
    have hlength := length_skip_le f t
    have hlength' := length_skip_le f t'
    generalize hs : skip f t = s at hskip hlength
    generalize hs' : skip f t' = s' at hskip hlength'
    cases hskip with
    | nil =>
      rw [classBody_none hs, classBody_none hs']
      exact .failed
    | mark =>
      rw [classBody_none hs]
      exact failed_of (classBody_mark hs')
    | @cons d s s' hrest =>
      have hlt : s.length < fuel := Nat.lt_of_succ_le (by simp at hlength; omega)
      have hlt' : s'.length < fuel' := Nat.lt_of_succ_le (by simp at hlength'; omega)
      -- the rest of the class behind a part of it
      have hnext : ∀ {r r' : Text} (left : Option (SetOp × CharClass)) (c : CharClass)
          (n : ClassNesting), Closed r r' → r.length ≤ s.length → r'.length ≤ s'.length →
          Closes (SameValue t t') (fun _ => False) (classBody f fuel negated left c n r)
            (classBody f fuel' negated left c n r') := by
        intro r r' left c n hr hle hle'
        apply (ih hr (Nat.lt_of_le_of_lt hle hlt) (Nat.lt_of_le_of_lt hle' hlt')).grow
        · exact Nat.le_trans hle (Nat.le_of_succ_le hlength)
        · exact Nat.le_trans hle' (Nat.le_of_succ_le hlength')
      by_cases hclose : d = ']'
      · subst hclose
        rw [classBody_end hs, classBody_end hs']
        exact closes_map hrest (Nat.le_of_succ_le hlength) (Nat.le_of_succ_le hlength') _ _
      · by_cases hopen : d = '['
        · subst hopen
          rw [classBody_bracket hs, classBody_bracket hs']
          rcases asciiClass?_closes hrest with ⟨hnone, hnone'⟩ | ⟨p, p', hp, hp', hsame⟩
          · have hopening := classOpening_closes (f := f) hrest
            rw [hnone, hnone', hopening.value]
            apply (ih hopening.rest (Nat.lt_of_le_of_lt hopening.length hlt)
              (Nat.lt_of_le_of_lt hopening.length' hlt')).bind
            · intro p p' hsame
              rw [hsame.value]
              exact hnext _ _ _ hsame.rest (Nat.le_trans hsame.length hopening.length)
                (Nat.le_trans hsame.length' hopening.length')
            · intro p e hlost
              exact hlost.elim
          · rw [hp, hp']
            dsimp only [afterAscii]
            rw [hsame.value]
            cases negateIf f p.1.2 (withCase f (.union (p.1.1.map fun r => .range r.1 r.2))) with
            | error e => exact .failed
            | ok k => exact hnext _ _ _ hsame.rest hsame.length hsame.length'
        · rw [classBody_item hs hclose hopen, classBody_item hs' hclose hopen]
          rcases setOperator?_closes hrest d with ⟨hnone, hnone'⟩ | ⟨p, p', hp, hp', hsame⟩
          · rw [hnone, hnone']
            apply (classRange_closes hrest d).bind
            · intro p p' hsame
              rw [hsame.value]
              exact hnext _ _ _ hsame.rest hsame.length hsame.length'
            · intro p e hlost
              exact failed_of (classBody_of_lost hlost)
          · rw [hp, hp']
            dsimp only
            rw [hsame.value]
            exact hnext _ _ _ hsame.rest hsame.length hsame.length'

theorem bracketed_eq (f : Flags) (t : Text) :
    bracketed f t =
      classBody f (t.length + 1) (classOpening f t).1.1 none (classOpening f t).1.2.1
        { items := (classOpening f t).1.2.2 } (classOpening f t).2 :=
  rfl

theorem bracketed_closes (h : Closed t t') :
    Closes (SameValue t t') (fun _ => False) (bracketed f t) (bracketed f t') := by
  have hopening := classOpening_closes (f := f) h
  rw [bracketed_eq, bracketed_eq, hopening.value]
  exact (classBody_closes hopening.rest (Nat.lt_succ_of_le hopening.length)
    (Nat.lt_succ_of_le hopening.length')).grow hopening.length hopening.length'

end DiffBudget.Regex
