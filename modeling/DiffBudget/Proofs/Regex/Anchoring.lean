import DiffBudget.Proofs.Regex.ItemClosing

/-!
# A pattern inside a group

A pattern that is read inside a group reads as it does alone, up to a closing parenthesis that it
did not open: alone it fails there, and inside it leaves the group. So what becomes of a pattern
between an opening and a closing depends on whether the closing parenthesis behind it is seen.
-/
namespace DiffBudget.Regex

/-! ## Reading inside a group -/

/-- Reads items up to the end of the text, or up to a closing parenthesis of no group; then the
text behind it comes with the reading. -/
def scan : Nat → Reading → Text → Except Fault (Reading × Option Text)
  | 0, r, _ => .ok (r, none)
  | fuel + 1, r, t =>
    match skip r.flags t with
    | [] => .ok (r, none)
    | c :: t =>
      if c = ')' ∧ r.outer = [] then .ok (r, some t)
      else readItem r c t >>= fun p => scan fuel p.1 p.2

variable {t t' s : Text} {r : Reading} {fuel : Nat} {c : Char} {g : Group}

theorem scan_end (h : skip r.flags t = []) : scan (fuel + 1) r t = .ok (r, none) := by
  rw [scan, h]

theorem scan_close (h : skip r.flags t = ')' :: s) (houter : r.outer = []) :
    scan (fuel + 1) r t = .ok (r, some s) := by
  rw [scan, h]
  exact if_pos ⟨rfl, houter⟩

theorem scan_item (h : skip r.flags t = c :: s) (hc : ¬(c = ')' ∧ r.outer = [])) :
    scan (fuel + 1) r t = readItem r c s >>= fun p => scan fuel p.1 p.2 := by
  rw [scan, h]
  exact if_neg hc

theorem readFrom_end (h : skip r.flags t = []) : readFrom (fuel + 1) r t = .ok r := by
  rw [readFrom, h]

theorem readFrom_item (h : skip r.flags t = c :: s) :
    readFrom (fuel + 1) r t = readItem r c s >>= fun p => readFrom fuel p.1 p.2 := by
  rw [readFrom, h]
  dsimp only
  cases readItem r c s <;> rfl

@[simp] theorem readFrom_nil (fuel : Nat) (r : Reading) : readFrom fuel r [] = .ok r := by
  cases fuel with
  | zero => rfl
  | succ fuel => exact readFrom_end (skip_nil _)

theorem readFrom_eq_scan (fuel : Nat) (r : Reading) (t : Text) :
    readFrom fuel r t = scan fuel r t >>= fun p =>
      match p.2 with
      | none => .ok p.1
      | some _ => .error .groupUnopened := by
  induction fuel generalizing r t with
  | zero => rfl
  | succ fuel ih =>
    cases hs : skip r.flags t with
    | nil =>
      rw [readFrom_end hs, scan_end hs]
      rfl
    | cons c s =>
      rw [readFrom_item hs]
      by_cases hc : c = ')' ∧ r.outer = []
      · obtain ⟨rfl, houter⟩ := hc
        rw [scan_close hs houter]
        simp only [readItem, Reading.closeGroup, houter]
        rfl
      · rw [scan_item hs hc]
        cases readItem r c s with
        | error e => rfl
        | ok p => exact ih p.1 p.2

namespace Reading

/-- The reading with one more group around all others. -/
def within (g : Group) (r : Reading) : Reading := { r with outer := r.outer ++ [g] }

def leave (g : Group) (r : Reading) : Reading :=
  { r with branches := g.branches, items := .node ⟨r.whole.regex, r.whole.depth + 1⟩ :: g.items
           flags := g.flags, outer := [] }

@[simp] theorem within_flags (g : Group) (r : Reading) : (r.within g).flags = r.flags := rfl

theorem closeGroup_within (h : r.outer = []) : (r.within g).closeGroup = .ok (r.leave g) := by
  simp only [closeGroup, within, h, List.nil_append]
  rfl

theorem closeGroup_within_of_ne (h : r.outer ≠ []) :
    (r.within g).closeGroup = r.closeGroup.map (within g) := by
  cases houter : r.outer with
  | nil => exact absurd houter h
  | cons a outer =>
    simp only [closeGroup, within, houter, List.cons_append]
    rfl

theorem closeGroup_ne_error (h : r.outer ≠ []) (e : Fault) : r.closeGroup ≠ .error e := by
  cases houter : r.outer with
  | nil => exact absurd houter h
  | cons a outer => simp [closeGroup, houter]

theorem repeated_within (r : Reading) (least : Nat) (most : Option Nat) :
    (r.within g).repeated least most = (r.repeated least most).map (within g) := by
  obtain ⟨branches, items, flags, outer, names⟩ := r
  cases items with
  | nil => rfl
  | cons item items => cases item <;> rfl

theorem withFlags_within (r : Reading) (p : Flags × List Char × Char) :
    (r.within g).withFlags p = (r.withFlags p).map (within g) := by
  unfold withFlags
  split
  · split <;> rfl
  · rfl

end Reading

theorem flagGroup_within (r : Reading) (t : Text) :
    flagGroup (r.within g) t = (flagGroup r t).map fun p => (p.1.within g, p.2) := by
  rw [flagGroup_eq, flagGroup_eq, Reading.within_flags]
  cases flagList r.flags [] t with
  | error e => rfl
  | ok p =>
    show ((r.within g).withFlags p.1).map _ = ((r.withFlags p.1).map _).map _
    rw [Reading.withFlags_within]
    cases r.withFlags p.1 <;> rfl

theorem openingOf_within (r : Reading) (t : Text) :
    openingOf (r.within g) t = (openingOf r t).map fun p => (p.1.within g, p.2) := by
  rw [openingOf_eq, openingOf_eq]
  cases nameOpening? t with
  | none =>
    simp only [unnamed]
    split
    · rfl
    · exact flagGroup_within r _
    · rfl
  | some s =>
    show (groupName r.names s).map _ = ((groupName r.names s).map _).map _
    cases groupName r.names s <;> rfl

theorem opening_within (r : Reading) (t : Text) :
    opening (r.within g) t = (opening r t).map fun p => (p.1.within g, p.2) := by
  rw [opening, opening, Reading.within_flags]
  split
  · rfl
  · exact openingOf_within r _

theorem readItem_within (hc : ¬(c = ')' ∧ r.outer = [])) (t : Text) :
    readItem (r.within g) c t = (readItem r c t).map fun p => (p.1.within g, p.2) := by
  have hpush : ∀ {α : Type} (x : Except Fault α) (f : α → Reading × Text)
      (f' : α → Reading × Text), (∀ a, f' a = ((f a).1.within g, (f a).2)) →
      x.map f' = (x.map f).map fun p => (p.1.within g, p.2) := by
    intro α x f f' hf
    cases x with
    | error e => rfl
    | ok a => exact congrArg Except.ok (hf a)
  have hrepeated : ∀ (least : Nat) (most : Option Nat) (s : Text),
      (((r.within g).repeated least most).map fun r => (r, s)) =
        ((r.repeated least most).map fun r => (r, s)).map fun p => (p.1.within g, p.2) := by
    intro least most s
    rw [Reading.repeated_within]
    cases r.repeated least most <;> rfl
  by_cases hbrace : c = '\x7b'
  · subst hbrace
    rw [readItem_counts, readItem_counts, Reading.within_flags]
    cases counts r.flags t with
    | error e => rfl
    | ok p => exact hrepeated _ _ _
  by_cases hback : c = '\\'
  · subst hback
    rw [readItem_escape, readItem_escape, Reading.within_flags]
    cases escape r.flags t with
    | error e => rfl
    | ok p => exact hpush _ _ _ fun _ => rfl
  unfold readItem
  dsimp only
  split
  · exact opening_within r t
  · have houter : r.outer ≠ [] := fun h => hc ⟨rfl, h⟩
    rw [Reading.closeGroup_within_of_ne houter]
    cases r.closeGroup <;> rfl
  · rfl
  · exact hpush _ _ _ fun _ => rfl
  · exact hrepeated _ _ _
  · exact hrepeated _ _ _
  · exact hrepeated _ _ _
  · exact absurd rfl hbrace
  · exact absurd rfl hback
  · exact hpush _ _ _ fun _ => rfl
  · rfl
  · rfl
  · exact hpush _ _ _ fun _ => rfl

/-- A pattern that stays inside the group it stands in is read there as it is alone; behind the
closing parenthesis of that group the reading goes on outside. -/
theorem readFrom_within (fuel : Nat) (r : Reading) (t : Text) :
    (∀ r', scan fuel r t = .ok (r', none) →
      readFrom fuel (r.within g) t = .ok (r'.within g)) ∧
    (∀ r', scan fuel r t = .ok (r', some []) →
      readFrom fuel (r.within g) t = .ok (r'.leave g)) ∧
    ∀ e, scan fuel r t = .error e → readFrom fuel (r.within g) t = .error e := by
  induction fuel generalizing r t with
  | zero =>
    refine ⟨?_, ?_, ?_⟩
    · intro r' h
      cases h
      rfl
    · intro r' h
      cases h
    · intro e h
      cases h
  | succ fuel ih =>
    cases hs : skip r.flags t with
    | nil =>
      rw [scan_end hs, readFrom_end (r := r.within g) hs]
      refine ⟨?_, ?_, ?_⟩
      · intro r' h
        cases h
        rfl
      · intro r' h
        cases h
      · intro e h
        cases h
    | cons c s =>
      rw [readFrom_item (r := r.within g) hs]
      by_cases hc : c = ')' ∧ r.outer = []
      · obtain ⟨rfl, houter⟩ := hc
        rw [scan_close hs houter]
        simp only [readItem, Reading.closeGroup_within houter]
        refine ⟨?_, ?_, ?_⟩
        · intro r' h
          cases h
        · intro r' h
          cases h
          exact readFrom_nil fuel _
        · intro e h
          cases h
      · rw [scan_item hs hc, readItem_within hc]
        cases readItem r c s with
        | error e =>
          refine ⟨?_, ?_, ?_⟩
          · intro r' h
            cases h
          · intro r' h
            cases h
          · intro e h
            cases h
            rfl
        | ok p => exact ih p.1 p.2

/-! ## A closing parenthesis behind the pattern -/

/-- What reading a pattern comes to without and with a closing parenthesis behind it. -/
inductive Ending : Except Fault (Reading × Option Text) → Except Fault (Reading × Option Text) → Prop
  /-- A remark has swallowed it. -/
  | hidden (r : Reading) : Ending (.ok (r, none)) (.ok (r, none))
  /-- It closes what stands around the pattern. -/
  | seen (r : Reading) (houter : r.outer = []) : Ending (.ok (r, none)) (.ok (r, some []))
  /-- It closes a group of the pattern. -/
  | inside (r r' : Reading) (houter : r.outer ≠ []) : Ending (.ok (r, none)) (.ok (r', none))
  /-- The pattern has closed what stands around it before. -/
  | outside (r : Reading) (s : Text) (x : Except Fault (Reading × Option Text)) :
    Ending (.ok (r, some s)) x
  /-- A part that was cut off took it. -/
  | lost (e : Fault) (r : Reading) : Ending (.error e) (.ok (r, none))
  | failed (e e' : Fault) : Ending (.error e) (.error e')

theorem scan_nil (fuel : Nat) (r : Reading) : scan fuel r [] = .ok (r, none) := by
  cases fuel with
  | zero => rfl
  | succ fuel => exact scan_end (skip_nil _)

theorem scan_of_cut {p : Reading × Text} (h : ItemCut p) (fuel : Nat) (e : Fault) :
    Ending (.error e) (scan fuel p.1 p.2) := by
  rcases h with hnone | ⟨s, hs, hskip⟩
  · rw [hnone, scan_nil]
    exact .lost e p.1
  · cases fuel with
    | zero => exact .lost e p.1
    | succ fuel =>
      have hbrace : skip p.1.flags p.2 = '\x7b' :: s := by
        rw [hs]
        exact skip_of_solid (by decide) (by decide) s
      have hcounts : counts p.1.flags s = .error .repetitionEmpty := by
        rw [counts_eq, hskip, decimal_mark]
        rfl
      rw [scan_item hbrace (by simp), readItem_counts, hcounts]
      exact .failed e _

theorem scan_closes (h : Closed t t') (r : Reading) {fuel fuel' : Nat} (hfuel : t.length < fuel)
    (hfuel' : t'.length < fuel') : Ending (scan fuel r t) (scan fuel' r t') := by
  induction fuel generalizing r t t' fuel' with
  | zero => exact absurd hfuel (Nat.not_lt_zero _)
  | succ fuel ih =>
    obtain ⟨fuel', rfl⟩ := Nat.exists_eq_add_one.mpr (Nat.zero_lt_of_lt hfuel')
    have hskip := h.skip r.flags
    have hlength := length_skip_le r.flags t
    have hlength' := length_skip_le r.flags t'
    generalize hs : skip r.flags t = s at hskip hlength
    generalize hs' : skip r.flags t' = s' at hskip hlength'
    cases hskip with
    | nil =>
      rw [scan_end hs, scan_end hs']
      exact .hidden r
    | mark =>
      rw [scan_end hs]
      by_cases houter : r.outer = []
      · rw [scan_close hs' houter]
        exact .seen r houter
      · rw [scan_item hs' (by simp [houter])]
        show Ending _ ((r.closeGroup.map fun r => (r, [])) >>= fun p => scan fuel' p.1 p.2)
        cases hclose : r.closeGroup with
        | error e => exact absurd hclose (by simp [Reading.closeGroup_ne_error houter])
        | ok r' =>
          show Ending _ (scan fuel' r' [])
          rw [scan_nil]
          exact .inside r r' houter
    | @cons c s s' hrest =>
      by_cases hc : c = ')' ∧ r.outer = []
      · obtain ⟨rfl, houter⟩ := hc
        rw [scan_close hs houter]
        exact .outside r s _
      · rw [scan_item hs hc, scan_item hs' hc]
        have hlt : s.length < fuel := by simp at hlength; omega
        have hlt' : s'.length < fuel' := by simp at hlength'; omega
        have hitem := readItem_closes hrest r c
        generalize readItem r c s = x at hitem ⊢
        generalize readItem r c s' = x' at hitem ⊢
        cases hitem with
        | @same p p' hsame =>
          show Ending (scan fuel p.1 p.2) (scan fuel' p'.1 p'.2)
          rw [hsame.value]
          exact ih hsame.rest p.1 (Nat.lt_of_le_of_lt hsame.length hlt)
            (Nat.lt_of_le_of_lt hsame.length' hlt')
        | @lost e p hlost => exact scan_of_cut hlost fuel' e
        | failed => exact .failed _ _

theorem length_of_readItem {p : Reading × Text} (h : readItem r c t = .ok p) :
    p.2.length ≤ t.length := by
  have hitem := readItem_closes (Closed.refl t) r c
  rw [h] at hitem
  cases hitem with
  | same hsame => exact hsame.length

theorem scan_eq_of_lt {fuel' : Nat} (r : Reading) (hfuel : t.length < fuel)
    (hfuel' : t.length < fuel') : scan fuel r t = scan fuel' r t := by
  induction fuel generalizing r t fuel' with
  | zero => exact absurd hfuel (Nat.not_lt_zero _)
  | succ fuel ih =>
    obtain ⟨fuel', rfl⟩ := Nat.exists_eq_add_one.mpr (Nat.zero_lt_of_lt hfuel')
    have hlength := length_skip_le r.flags t
    cases hs : skip r.flags t with
    | nil => rw [scan_end hs, scan_end hs]
    | cons c s =>
      rw [hs] at hlength
      by_cases hc : c = ')' ∧ r.outer = []
      · obtain ⟨rfl, houter⟩ := hc
        rw [scan_close hs houter, scan_close hs houter]
      · rw [scan_item hs hc, scan_item hs hc]
        cases hread : readItem r c s with
        | error e => rfl
        | ok p =>
          have hle := length_of_readItem hread
          exact ih p.1 (by simp at hlength; omega) (by simp at hlength; omega)

/-! ## Patterns between an opening and a closing -/

def finish (p : Reading × Option Text) : Except Fault Node :=
  match p.2 with
  | none => if p.1.outer.isEmpty then .ok p.1.whole else .error .groupUnclosed
  | some _ => .error .groupUnopened

theorem finish_closed (h : r.outer = []) : finish (r, none) = .ok r.whole := by
  simp [finish, h]

theorem finish_open (h : r.outer ≠ []) : finish (r, none) = .error .groupUnclosed := by
  simp [finish, h]

theorem readWhole_eq (t : Text) : readWhole t = scan (t.length + 1) {} t >>= finish := by
  rw [readWhole, readFrom_eq_scan]
  cases scan (t.length + 1) {} t with
  | error e => rfl
  | ok p =>
    obtain ⟨r, rest⟩ := p
    cases rest <;> rfl

def anchorGroup : Group := ⟨[], [.node ⟨.look .textStart, 0⟩], {}⟩

theorem readWhole_anchored (t : Text) :
    readWhole ("^(?:".toList ++ t ++ ")".toList) =
      readFrom (t.length + 4) (({} : Reading).within anchorGroup) (t ++ [')']) >>= fun r =>
        if r.outer.isEmpty then .ok r.whole else .error .groupUnclosed := by
  have hlength : ("^(?:".toList ++ t ++ ")".toList).length + 1 = t.length + 6 := by
    rw [List.length_append, List.length_append]
    show 4 + t.length + 1 + 1 = t.length + 6
    omega
  have hstart : readFrom (t.length + 6) {} ("^(?:".toList ++ t ++ ")".toList) =
      readFrom (t.length + 4) (({} : Reading).within anchorGroup) (t ++ [')']) := by
    have hcaret : skip ({} : Reading).flags ("^(?:".toList ++ t ++ ")".toList) =
        '^' :: '(' :: '?' :: ':' :: (t ++ [')']) := rfl
    rw [readFrom_item hcaret]
    rfl
  rw [readWhole, hlength, hstart]
  cases readFrom (t.length + 4) (({} : Reading).within anchorGroup) (t ++ [')']) <;> rfl

theorem leave_anchorGroup (r : Reading) :
    (r.leave anchorGroup).whole = ⟨.seq (.look .textStart) r.whole.regex, r.whole.depth + 2⟩ := by
  simp [Reading.whole, Reading.branch, Reading.leave, anchorGroup, joinNodes, Item.toNode]

theorem readWhole_anchored_of_none
    (h : scan (t.length + 4) {} (t ++ [')']) = .ok (r, none)) :
    readWhole ("^(?:".toList ++ t ++ ")".toList) = .error .groupUnclosed := by
  have houter : (r.within anchorGroup).outer.isEmpty = false := by
    simp [Reading.within]
  rw [readWhole_anchored, (readFrom_within _ _ _).1 r h]
  show (if (r.within anchorGroup).outer.isEmpty then _ else _) = _
  rw [houter]
  rfl

theorem readWhole_anchored_of_closed
    (h : scan (t.length + 4) {} (t ++ [')']) = .ok (r, some [])) :
    readWhole ("^(?:".toList ++ t ++ ")".toList) =
      .ok ⟨.seq (.look .textStart) r.whole.regex, r.whole.depth + 2⟩ := by
  rw [readWhole_anchored, (readFrom_within _ _ _).2.1 r h, ← leave_anchorGroup]
  rfl

theorem readWhole_anchored_of_error {e : Fault}
    (h : scan (t.length + 4) {} (t ++ [')']) = .error e) :
    readWhole ("^(?:".toList ++ t ++ ")".toList) = .error e := by
  rw [readWhole_anchored, (readFrom_within _ _ _).2.2 e h]
  rfl

/-- The pattern can be read, and with a closing parenthesis behind it still: a remark at its end
swallows the parenthesis. -/
def HidesEnd (t : Text) : Prop :=
  (∃ n, readWhole t = .ok n) ∧ ∃ n, readWhole (t ++ [')']) = .ok n

def ClosesOutside (t : Text) : Prop := readWhole t = .error .groupUnopened

/-- What reading a pattern comes to alone and tied to the start. -/
inductive Anchored (t : Text) : Except Fault Node → Except Fault Node → Prop
  | outside (h : ClosesOutside t) (x : Except Fault Node) : Anchored t (.error .groupUnopened) x
  | hidden (h : HidesEnd t) (n : Node) : Anchored t (.ok n) (.error .groupUnclosed)
  | read (h : ¬HidesEnd t) (n : Node) :
    Anchored t (.ok n) (.ok ⟨.seq (.look .textStart) n.regex, n.depth + 2⟩)
  | failed (e e' : Fault) : Anchored t (.error e) (.error e')

/-- Tied to the start a pattern reads as it does alone, unless it closes the group around it or
hides the end of that group. -/
theorem anchored_readWhole (t : Text) :
    Anchored t (readWhole t) (readWhole ("^(?:".toList ++ t ++ ")".toList)) := by
  have hfuel : (t ++ [')']).length < t.length + 4 := by simp
  have hending := scan_closes (Closed.append t) {} (Nat.lt_succ_self t.length) hfuel
  have halone := readWhole_eq t
  have hclosed := readWhole_eq (t ++ [')'])
  rw [scan_eq_of_lt {} (Nat.lt_succ_self _) hfuel] at hclosed
  generalize hx : scan (t.length + 1) {} t = x at hending halone
  generalize hx' : scan (t.length + 4) {} (t ++ [')']) = x' at hending hclosed
  cases hending with
  | hidden r =>
    rw [readWhole_anchored_of_none hx']
    by_cases houter : r.outer = []
    · have hread : readWhole t = .ok r.whole := halone.trans (finish_closed houter)
      have hhides : readWhole (t ++ [')']) = .ok r.whole := hclosed.trans (finish_closed houter)
      rw [hread]
      exact .hidden ⟨⟨_, hread⟩, _, hhides⟩ _
    · rw [halone.trans (finish_open houter)]
      exact .failed _ _
  | seen r houter =>
    have hseen : readWhole (t ++ [')']) = .error .groupUnopened := hclosed
    rw [readWhole_anchored_of_closed hx', halone.trans (finish_closed houter)]
    apply Anchored.read
    rintro ⟨-, n, hn⟩
    rw [hseen] at hn
    cases hn
  | inside r r' houter =>
    rw [readWhole_anchored_of_none hx', halone.trans (finish_open houter)]
    exact .failed _ _
  | outside r s x =>
    have houtside : readWhole t = .error .groupUnopened := halone
    rw [houtside]
    exact .outside houtside _
  | lost e r =>
    rw [readWhole_anchored_of_none hx', halone]
    exact .failed _ _
  | failed e e' =>
    rw [readWhole_anchored_of_error hx', halone]
    exact .failed _ _

end DiffBudget.Regex
