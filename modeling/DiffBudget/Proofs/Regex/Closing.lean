import DiffBudget.Regex.Parser

/-!
# A closing parenthesis behind a pattern

A reader that is given one closing parenthesis more reads the same parts as before: the parenthesis
stays in the rest, unless a remark has swallowed it. Only a part that is cut off at the end of the
pattern may take it, and then nothing is left.
-/
namespace DiffBudget.Regex

theorem dropLazy_of_ne {c : Char} (h : c ≠ '?') (t : Text) : dropLazy (c :: t) = c :: t := by
  unfold dropLazy
  split
  · simp_all
  · rfl

/-- The same text, or the text with a closing parenthesis behind it. -/
inductive Closed : Text → Text → Prop
  | nil : Closed [] []
  | mark : Closed [] [')']
  | cons (c : Char) {t t' : Text} (h : Closed t t') : Closed (c :: t) (c :: t')

namespace Closed

@[refl] theorem refl (t : Text) : Closed t t := by
  induction t with
  | nil => exact .nil
  | cons c t ih => exact .cons c ih

theorem append (t : Text) : Closed t (t ++ [')']) := by
  induction t with
  | nil => exact .mark
  | cons c t ih => exact .cons c ih

variable {t t' : Text}

theorem length_le (h : Closed t t') : t.length ≤ t'.length := by
  induction h with
  | nil => exact Nat.le_refl _
  | mark => exact Nat.zero_le _
  | cons c h ih => exact Nat.succ_le_succ ih

theorem skipRemarks (h : Closed t t') (inside : Bool) :
    Closed (Regex.skipRemarks inside t) (Regex.skipRemarks inside t') := by
  induction h generalizing inside with
  | nil => rfl
  | mark =>
    cases inside with
    | true => exact .nil
    | false => exact .mark
  | cons c h ih =>
    cases inside with
    | true => exact ih _
    | false =>
      rw [Regex.skipRemarks, Regex.skipRemarks]
      split
      · exact ih _
      · split
        · exact ih _
        · exact .cons c h

theorem skip (h : Closed t t') (f : Flags) : Closed (Regex.skip f t) (Regex.skip f t') := by
  unfold Regex.skip
  split
  · exact h.skipRemarks false
  · exact h

theorem dropBlanks (h : Closed t t') : Closed (t.dropWhile isBlank) (t'.dropWhile isBlank) := by
  induction h with
  | nil => rfl
  | mark => exact .mark
  | cons c h ih =>
    rw [List.dropWhile_cons, List.dropWhile_cons]
    split
    · exact ih
    · exact .cons c h

theorem dropLazy (h : Closed t t') : Closed (Regex.dropLazy t) (Regex.dropLazy t') := by
  cases h with
  | nil => rfl
  | mark => exact .mark
  | cons c h =>
    by_cases hc : c = '?'
    · subst hc
      exact h
    · rw [dropLazy_of_ne hc, dropLazy_of_ne hc]
      exact .cons c h

end Closed

theorem length_skipRemarks_le (inside : Bool) (t : Text) :
    (skipRemarks inside t).length ≤ t.length := by
  induction t generalizing inside with
  | nil => simp [skipRemarks]
  | cons c t ih =>
    cases inside with
    | true => exact Nat.le_succ_of_le (ih _)
    | false =>
      rw [skipRemarks]
      split
      · exact Nat.le_succ_of_le (ih _)
      · split
        · exact Nat.le_succ_of_le (ih _)
        · exact Nat.le_refl _

theorem length_skip_le (f : Flags) (t : Text) : (skip f t).length ≤ t.length := by
  unfold skip
  split
  · exact length_skipRemarks_le false t
  · exact Nat.le_refl _

@[simp] theorem skip_nil (f : Flags) : skip f [] = [] := by
  unfold skip
  split <;> rfl

theorem length_dropLazy_le (t : Text) : (dropLazy t).length ≤ t.length := by
  unfold dropLazy
  split <;> simp

/-! ## Readers of parts -/

/-- What becomes of a reader when a closing parenthesis is put behind the text: it ends with
values that belong together, or it failed and now fails or ends with a value of the last kind. -/
inductive Closes {ρ : Type} (Same : ρ → ρ → Prop) (Lost : ρ → Prop) :
    Except Fault ρ → Except Fault ρ → Prop
  | same {a a' : ρ} (h : Same a a') : Closes Same Lost (.ok a) (.ok a')
  | lost {e : Fault} {a : ρ} (h : Lost a) : Closes Same Lost (.error e) (.ok a)
  | failed {e e' : Fault} : Closes Same Lost (.error e) (.error e')

/-- One value, with the rests of a text and of the closed one, neither longer than its text. -/
structure SameValue {α : Type} (t t' : Text) (p p' : α × Text) : Prop where
  value : p'.1 = p.1
  rest : Closed p.2 p'.2
  length : p.2.length ≤ t.length
  length' : p'.2.length ≤ t'.length

theorem SameValue.mono {α : Type} {s s' t t' : Text} {p p' : α × Text} (h : SameValue s s' p p')
    (hle : s.length ≤ t.length) (hle' : s'.length ≤ t'.length) : SameValue t t' p p' :=
  ⟨h.value, h.rest, Nat.le_trans h.length hle, Nat.le_trans h.length' hle'⟩

def Together {α : Type} (t t' : Text) (x x' : Option (α × Text)) : Prop :=
  (x = none ∧ x' = none) ∨ ∃ p p', x = some p ∧ x' = some p' ∧ SameValue t t' p p'

def UsedUp {α : Type} (p : α × Text) : Prop := p.2 = []

namespace Closes

variable {ρ σ : Type} {Same : ρ → ρ → Prop} {Lost : ρ → Prop} {Same' : σ → σ → Prop}
  {Lost' : σ → Prop} {x x' : Except Fault ρ}

theorem bind (h : Closes Same Lost x x') {f f' : ρ → Except Fault σ}
    (hsame : ∀ a a', Same a a' → Closes Same' Lost' (f a) (f' a'))
    (hlost : ∀ a e, Lost a → Closes Same' Lost' (.error e) (f' a)) :
    Closes Same' Lost' (x >>= f) (x' >>= f') := by
  cases h with
  | same h => exact hsame _ _ h
  | lost h => exact hlost _ _ h
  | failed => exact .failed

theorem mono (h : Closes Same Lost x x') {Other : ρ → ρ → Prop} {Gone : ρ → Prop}
    (hsame : ∀ a a', Same a a' → Other a a') (hlost : ∀ a, Lost a → Gone a) :
    Closes Other Gone x x' := by
  cases h with
  | same h => exact .same (hsame _ _ h)
  | lost h => exact .lost (hlost _ h)
  | failed => exact .failed

end Closes

theorem Closes.grow {α : Type} {s s' t t' : Text} {Lost : α × Text → Prop}
    {x x' : Except Fault (α × Text)} (h : Closes (SameValue s s') Lost x x')
    (hle : s.length ≤ t.length) (hle' : s'.length ≤ t'.length) :
    Closes (SameValue t t') Lost x x' :=
  h.mono (fun _ _ hp => hp.mono hle hle') fun _ hp => hp

variable {t t' : Text} {f : Flags}

theorem takeSpaced_closes (h : Closed t t') (n : Nat) :
    SameValue t t' (takeSpaced f n t) (takeSpaced f n t') ∨
      (takeSpaced f n t).1.length < n ∧ ')' ∈ (takeSpaced f n t').1 := by
  induction n generalizing t t' with
  | zero =>
    left
    cases h with
    | nil => exact ⟨rfl, .nil, Nat.le_refl _, Nat.le_refl _⟩
    | mark => exact ⟨rfl, .mark, Nat.le_refl _, Nat.le_refl _⟩
    | cons c h => exact ⟨rfl, .cons c h, Nat.le_refl _, Nat.le_refl _⟩
  | succ n ih =>
    cases h with
    | nil => exact .inl ⟨rfl, .nil, Nat.le_refl _, Nat.le_refl _⟩
    | mark => exact .inr ⟨Nat.succ_pos n, List.mem_cons_self⟩
    | @cons c t t' h =>
      rcases ih (h.skip f) with hsame | ⟨hshort, hmem⟩
      · left
        refine ⟨by simp only [takeSpaced, hsame.value], hsame.rest, ?_, ?_⟩
        · exact Nat.le_succ_of_le (Nat.le_trans hsame.length (length_skip_le f t))
        · exact Nat.le_succ_of_le (Nat.le_trans hsame.length' (length_skip_le f t'))
      · right
        exact ⟨Nat.succ_lt_succ hshort, List.mem_cons_of_mem c hmem⟩

@[simp] theorem upToBrace_nil (f : Flags) (fuel : Nat) : upToBrace f fuel [] = none := by
  cases fuel <;> rfl

@[simp] theorem upToBrace_mark (f : Flags) (fuel : Nat) : upToBrace f fuel [')'] = none := by
  cases fuel with
  | zero => rfl
  | succ fuel => simp [upToBrace]

theorem upToBrace_closes (h : Closed t t') {fuel fuel' : Nat} (hfuel : t.length ≤ fuel)
    (hfuel' : t'.length ≤ fuel') :
    Together t t' (upToBrace f fuel t) (upToBrace f fuel' t') := by
  induction fuel generalizing t t' fuel' with
  | zero =>
    obtain rfl := List.eq_nil_of_length_eq_zero (Nat.le_zero.mp hfuel)
    cases h with
    | nil => exact .inl ⟨rfl, upToBrace_nil f fuel'⟩
    | mark => exact .inl ⟨rfl, upToBrace_mark f fuel'⟩
  | succ fuel ih =>
    cases h with
    | nil => exact .inl ⟨rfl, upToBrace_nil f fuel'⟩
    | mark => exact .inl ⟨rfl, upToBrace_mark f fuel'⟩
    | @cons c t t' h =>
      obtain ⟨fuel', rfl⟩ : ∃ k, fuel' = k + 1 :=
        Nat.exists_eq_add_one.mpr (by simp at hfuel'; omega)
      have hlength := length_skip_le f t
      have hlength' := length_skip_le f t'
      by_cases hc : c = '\x7d'
      · refine .inr ⟨([], t), ([], t'), by simp [upToBrace, hc], by simp [upToBrace, hc], ?_⟩
        exact ⟨rfl, h, Nat.le_succ _, Nat.le_succ _⟩
      · have hleft := Nat.le_trans hlength (Nat.le_of_succ_le_succ hfuel)
        have hright := Nat.le_trans hlength' (Nat.le_of_succ_le_succ hfuel')
        rcases ih (h.skip f) hleft hright with ⟨hnone, hnone'⟩ | ⟨p, p', hp, hp', hsame⟩
        · exact .inl ⟨by simp [upToBrace, hc, hnone], by simp [upToBrace, hc, hnone']⟩
        · refine .inr ⟨(c :: p.1, p.2), (c :: p'.1, p'.2), by simp [upToBrace, hc, hp],
            by simp [upToBrace, hc, hp'], ?_⟩
          refine ⟨by rw [hsame.value], hsame.rest, ?_, ?_⟩
          · exact Nat.le_succ_of_le (Nat.le_trans hsame.length hlength)
          · exact Nat.le_succ_of_le (Nat.le_trans hsame.length' hlength')

theorem dropWhile_closes (h : Closed t t') {p : Char → Bool} (hmark : p ')' = true) :
    (t.dropWhile p = [] ∧ t'.dropWhile p = []) ∨
      ∃ c s s', t.dropWhile p = c :: s ∧ t'.dropWhile p = c :: s' ∧ Closed s s' ∧
        t'.takeWhile p = t.takeWhile p := by
  induction h with
  | nil => exact .inl ⟨rfl, rfl⟩
  | mark => exact .inl ⟨rfl, by simp [hmark]⟩
  | @cons c t t' h ih =>
    cases hc : p c with
    | false =>
      exact .inr ⟨c, t, t', List.dropWhile_cons_of_neg (by simp [hc]),
        List.dropWhile_cons_of_neg (by simp [hc]), h, by simp [hc]⟩
    | true =>
      rw [List.dropWhile_cons_of_pos hc, List.dropWhile_cons_of_pos hc]
      rcases ih with hnone | ⟨d, s, s', hs, hs', hrest, htaken⟩
      · exact .inl hnone
      · exact .inr ⟨d, s, s', hs, hs', hrest, by simp [hc, htaken]⟩

theorem closes_map {α β : Type} {Lost : β × Text → Prop} {s s' : Text} (h : Closed s s')
    (hle : s.length ≤ t.length) (hle' : s'.length ≤ t'.length) (x : Except Fault α) (g : α → β) :
    Closes (SameValue t t') Lost (x.map fun a => (g a, s)) (x.map fun a => (g a, s')) := by
  cases x with
  | error e => exact .failed
  | ok a => exact .same ⟨rfl, h, hle, hle'⟩

/-! ## Escapes -/

theorem bracedHex_closes (h : Closed t t') :
    Closes (SameValue t t') UsedUp (bracedHex f t) (bracedHex f t') := by
  have hlength := length_skip_le f t
  have hlength' := length_skip_le f t'
  rcases upToBrace_closes (h.skip f) hlength hlength' with
    ⟨hnone, hnone'⟩ | ⟨⟨ds, s⟩, ⟨ds', s'⟩, hp, hp', ⟨rfl, hrest, hshort, hshort'⟩⟩
  · rw [bracedHex, bracedHex, hnone, hnone']
    exact .failed
  · rw [bracedHex, bracedHex, hp, hp']
    dsimp only
    split
    · exact .failed
    · split
      · exact .failed
      · exact closes_map hrest (Nat.le_trans hshort hlength) (Nat.le_trans hshort' hlength') _ _

theorem plainHex_eq (f : Flags) (kind : Char) (t : Text) :
    plainHex f kind t =
      if (takeSpaced f (hexDigitCount kind) t).1.any (!isHex ·) then .error .hexInvalid
      else if (takeSpaced f (hexDigitCount kind) t).1.length < hexDigitCount kind then
        .error .escapeUnfinished
      else
        (hexChar (takeSpaced f (hexDigitCount kind) t).1).map fun c =>
          (.literal c (kind = 'x'), (takeSpaced f (hexDigitCount kind) t).2) :=
  rfl

theorem plainHex_closes (h : Closed t t') (kind : Char) :
    Closes (SameValue t t') UsedUp (plainHex f kind t) (plainHex f kind t') := by
  have hmark : isHex ')' = false := by decide
  rw [plainHex_eq, plainHex_eq]
  rcases takeSpaced_closes (f := f) h (hexDigitCount kind) with
    ⟨hvalue, hrest, hshort, hshort'⟩ | ⟨hfew, hmem⟩
  · rw [hvalue]
    split
    · exact .failed
    · split
      · exact .failed
      · exact closes_map hrest hshort hshort' _ _
  · -- too few digits without the parenthesis, and with it one that is none
    have hany : (takeSpaced f (hexDigitCount kind) t').1.any (!isHex ·) = true :=
      List.any_eq_true.mpr ⟨')', hmem, by rw [hmark]; rfl⟩
    rw [if_pos hany, if_pos hfew]
    split <;> exact .failed

theorem hexDigitCount_pos (kind : Char) : 0 < hexDigitCount kind := by
  unfold hexDigitCount
  split
  · omega
  · split <;> omega

theorem plainHex_mark (f : Flags) (kind : Char) : plainHex f kind [')'] = .error .hexInvalid := by
  have hmark : isHex ')' = false := by decide
  obtain ⟨n, hn⟩ := Nat.exists_eq_add_one.mpr (hexDigitCount_pos kind)
  rw [plainHex_eq, hn]
  simp [takeSpaced, hmark]

theorem hexEscape_closes (h : Closed t t') (kind : Char) :
    Closes (SameValue t t') UsedUp (hexEscape f kind t) (hexEscape f kind t') := by
  have hskip := h.skip f
  have hlength := length_skip_le f t
  have hlength' := length_skip_le f t'
  rw [hexEscape, hexEscape]
  generalize skip f t = s at hskip hlength ⊢
  generalize skip f t' = s' at hskip hlength' ⊢
  cases hskip with
  | nil => exact .failed
  | mark =>
    show Closes _ _ (.error _) (plainHex f kind [')'])
    rw [plainHex_mark]
    exact .failed
  | @cons c s s' hs =>
    by_cases hc : c = '\x7b'
    · subst hc
      exact (bracedHex_closes hs).grow (Nat.le_of_succ_le hlength) (Nat.le_of_succ_le hlength')
    · have hplain := (plainHex_closes (f := f) (hs.cons c) kind).grow hlength hlength'
      split
      · simp_all
      · simp_all
      · split
        · simp_all
        · simp_all
        · exact hplain

theorem propertyName_brace {s : Text} (h : skip f t = '\x7b' :: s) :
    propertyName f t =
      match upToBrace f s.length (skip f s) with
      | none => .error .escapeUnfinished
      | some p => .ok p := by
  rw [propertyName, h]
  rfl

theorem propertyName_cons {c : Char} {s : Text} (h : skip f t = c :: s) (hc : c ≠ '\x7b')
    (hb : c ≠ '\\') : propertyName f t = .ok ([c], skip f s) := by
  rw [propertyName, h]
  split <;> simp_all

theorem propertyName_closes (h : Closed t t') :
    Closes (SameValue t t') UsedUp (propertyName f t) (propertyName f t') := by
  have hskip := h.skip f
  have hlength := length_skip_le f t
  have hlength' := length_skip_le f t'
  generalize hs : skip f t = s at hskip hlength
  generalize hs' : skip f t' = s' at hskip hlength'
  cases hskip with
  | nil =>
    rw [propertyName, propertyName, hs, hs']
    exact .failed
  | mark =>
    rw [propertyName, propertyName, hs, hs']
    exact .lost (skip_nil f)
  | @cons c s s' hrest =>
    have hle := length_skip_le f s
    have hle' := length_skip_le f s'
    by_cases hc : c = '\x7b'
    · subst hc
      rw [propertyName_brace hs, propertyName_brace hs']
      rcases upToBrace_closes (hrest.skip f) hle hle' with
        ⟨hnone, hnone'⟩ | ⟨p, p', hp, hp', hsame⟩
      · rw [hnone, hnone']
        exact .failed
      · rw [hp, hp']
        exact .same (hsame.mono (Nat.le_trans hle (Nat.le_of_succ_le hlength))
          (Nat.le_trans hle' (Nat.le_of_succ_le hlength')))
    · by_cases hb : c = '\\'
      · subst hb
        rw [propertyName, propertyName, hs, hs']
        exact .failed
      · rw [propertyName_cons hs hc hb, propertyName_cons hs' hc hb]
        exact .same ⟨rfl, hrest.skip f, Nat.le_trans hle (Nat.le_of_succ_le hlength),
          Nat.le_trans hle' (Nat.le_of_succ_le hlength')⟩

theorem propertyEscape_eq (f : Flags) (negated : Bool) (t : Text) :
    propertyEscape f negated t = propertyName f t >>= fun p =>
      (propertyClass f negated p.1).map fun k => (Primitive.charClass k, p.2) := by
  rw [propertyEscape]
  apply congrArg
  funext ⟨name, rest⟩
  dsimp only
  cases propertyClass f negated name <;> rfl

theorem propertyEscape_closes (h : Closed t t') (negated : Bool) :
    Closes (SameValue t t') UsedUp (propertyEscape f negated t) (propertyEscape f negated t') := by
  rw [propertyEscape_eq, propertyEscape_eq]
  apply (propertyName_closes h).bind
  · rintro p p' hsame
    rw [hsame.value]
    exact closes_map hsame.rest hsame.length hsame.length' _ _
  · intro p e hlost
    cases propertyClass f negated p.1 with
    | error e' => exact .failed
    | ok k => exact .lost hlost

/-- What is left when a word boundary was cut off behind its brace: the brace, and nothing behind
it that counts but the parenthesis. -/
def BraceLeft (f : Flags) (p : Primitive × Text) : Prop :=
  (∃ a, p.1 = .look a) ∧ ∃ r, p.2 = '\x7b' :: r ∧ skip f r = [')']

theorem wordBoundary_of_ne {c : Char} (hc : c ≠ '\x7b') (t : Text) :
    wordBoundary f (c :: t) = .ok (.look (.wordBoundary f.unicode), c :: t) := by
  rw [wordBoundary]
  intro r heq
  exact hc (List.cons.inj heq).1

theorem wordBoundary_brace_of_not {r s : Text} {c : Char} (h : skip f r = c :: s)
    (hc : isBoundaryLetter c = false) :
    wordBoundary f ('\x7b' :: r) = .ok (.look (.wordBoundary f.unicode), '\x7b' :: r) := by
  simp [wordBoundary, h, hc]

def namedBoundary (f : Flags) (p : Text × Text) : Except Fault (Primitive × Text) :=
  if p.1.any (!isBoundaryLetter ·) then .error .wordBoundaryUnclosed
  else
    match (boundaryNames f.unicode).lookup p.1 with
    | some a => .ok (.look a, p.2)
    | none => .error .wordBoundaryUnrecognized

theorem wordBoundary_brace {r s : Text} {c : Char} (h : skip f r = c :: s)
    (hc : isBoundaryLetter c = true) :
    wordBoundary f ('\x7b' :: r) =
      match upToBrace f (s.length + 1) (c :: s) with
      | none => .error .wordBoundaryUnclosed
      | some p => namedBoundary f p := by
  simp only [wordBoundary, h, hc, Bool.not_true, Bool.false_eq_true, if_false]
  cases upToBrace f (s.length + 1) (c :: s) <;> rfl

theorem wordBoundary_closes (h : Closed t t') :
    Closes (SameValue t t') (BraceLeft f) (wordBoundary f t) (wordBoundary f t') := by
  have hplain : ∀ a, Closes (SameValue t t') (BraceLeft f) (.ok (.look a, t)) (.ok (.look a, t')) :=
    fun a => .same ⟨rfl, h, Nat.le_refl _, Nat.le_refl _⟩
  cases h with
  | nil => exact hplain _
  | mark => exact hplain _
  | @cons c r r' hr =>
    by_cases hc : c = '\x7b'
    · subst hc
      have hskip := hr.skip f
      have hlength := length_skip_le f r
      have hlength' := length_skip_le f r'
      generalize hs : skip f r = s at hskip hlength
      generalize hs' : skip f r' = s' at hskip hlength'
      cases hskip with
      | nil =>
        simp only [wordBoundary, hs, hs']
        exact .failed
      | mark =>
        rw [wordBoundary_brace_of_not hs' (by decide)]
        simp only [wordBoundary, hs]
        exact .lost ⟨⟨_, rfl⟩, r', rfl, hs'⟩
      | @cons d s s' hrest =>
        cases hd : isBoundaryLetter d with
        | false =>
          rw [wordBoundary_brace_of_not hs hd, wordBoundary_brace_of_not hs' hd]
          exact hplain _
        | true =>
          rw [wordBoundary_brace hs hd, wordBoundary_brace hs' hd]
          rcases upToBrace_closes (f := f) (hrest.cons d) (Nat.le_refl (s.length + 1))
            (Nat.le_refl (s'.length + 1)) with ⟨hnone, hnone'⟩ | ⟨p, p', hp, hp', hsame⟩
          · rw [hnone, hnone']
            exact .failed
          · rw [hp, hp']
            simp only [namedBoundary, hsame.value]
            split
            · exact .failed
            · split
              · refine .same ⟨rfl, hsame.rest, ?_, ?_⟩
                · exact Nat.le_succ_of_le (Nat.le_trans hsame.length hlength)
                · exact Nat.le_succ_of_le (Nat.le_trans hsame.length' hlength')
              · exact .failed
    · rw [wordBoundary_of_ne hc, wordBoundary_of_ne hc]
      exact hplain _

def EscapeLost (f : Flags) (p : Primitive × Text) : Prop := UsedUp p ∨ BraceLeft f p

theorem escape_closes (h : Closed t t') :
    Closes (SameValue t t') (EscapeLost f) (escape f t) (escape f t') := by
  cases h with
  | nil => exact .failed
  | mark => exact .lost (.inl rfl)
  | @cons c t t' h =>
    have hle : t.length ≤ (c :: t).length := Nat.le_succ _
    have hle' : t'.length ≤ (c :: t').length := Nat.le_succ _
    have hread : ∀ p, Closes (SameValue (c :: t) (c :: t')) (EscapeLost f)
        (.ok (p, t)) (.ok (p, t')) := fun p => .same ⟨rfl, h, hle, hle'⟩
    simp only [escape.eq_def]
    split
    · exact .failed
    · split
      · exact ((hexEscape_closes h c).grow hle hle').mono (fun _ _ hp => hp) fun _ => .inl
      · split
        · exact ((propertyEscape_closes h _).grow hle hle').mono (fun _ _ hp => hp) fun _ => .inl
        · split
          · exact closes_map h hle hle' _ _
          · split
            · exact hread _
            · split
              · exact hread _
              · split
                · exact hread _
                · exact hread _
                · exact ((wordBoundary_closes h).grow hle hle').mono (fun _ _ hp => hp)
                    fun _ => .inr
                · exact hread _
                · exact hread _
                · exact hread _
                · exact .failed

end DiffBudget.Regex
