import DiffBudget.EditScript.Slide
import DiffBudget.Proofs.EditScript.Walk

/-!
# Sliding keeps where a script leads

A change that slides past equal items takes as many with it on its new side as it leaves behind,
and only insertions slide so. A change that passes one of the other kind keeps its place on the
side that it covers; on the other side its index stays behind, within the bounds that `Simple`
sets.
-/
namespace DiffBudget.EditScript

variable {α : Type} {old new : Array α} {total s : Nat} {o p q r : Place}
  {run change here op : EditOp} {before behind ops : List EditOp}

theorem growLeft_equal (i j n s : Nat) :
    (EditOp.equal i j n).growLeft s = .equal (i - s) (j - s) (n + s) := rfl

theorem growRight_equal (i j n s : Nat) :
    (EditOp.equal i j n).growRight s = .equal i j (n + s) := rfl

theorem shrinkRight_equal (i j n s : Nat) :
    (EditOp.equal i j n).shrinkRight s = .equal (i + s) (j + s) (n - s) := rfl

theorem shiftLeft_insert (x j m s : Nat) :
    (EditOp.insert x j m).shiftLeft s = .insert (x - s) (j - s) m := rfl

theorem shiftRight_insert (x j m s : Nat) :
    (EditOp.insert x j m).shiftRight s = .insert (x + s) (j + s) m := rfl

theorem Simple.cases (h : Simple old new total p op) :
    (∃ n, 0 < n ∧ Alike old new p.old p.new n ∧ op = .equal p.old p.new n) ∨
    (∃ n x, x ≤ p.kept + (new.size - total) ∧ op = .delete p.old n x) ∨
    ∃ x m, x ≤ p.kept + (old.size - total) ∧ op = .insert x p.new m := by
  obtain ⟨tag, oldIndex, oldCount, newIndex, newCount⟩ := op
  simp only [Simple] at h
  cases tag with
  | equal =>
    obtain ⟨rfl, rfl, rfl, hpos, halike⟩ := h
    exact .inl ⟨newCount, hpos, halike, rfl⟩
  | delete =>
    obtain ⟨rfl, rfl, hbound⟩ := h
    exact .inr (.inl ⟨oldCount, newIndex, hbound, rfl⟩)
  | insert =>
    obtain ⟨rfl, rfl, hbound⟩ := h
    exact .inr (.inr ⟨oldIndex, newCount, hbound, rfl⟩)
  | replace => exact h.elim

theorem Simple.not_isEmpty (h : Simple old new total p op) (htag : op.tag = .equal) :
    ¬op.isEmpty = true := by
  obtain ⟨n, hn, -, rfl⟩ | ⟨n, x, -, rfl⟩ | ⟨x, m, -, rfl⟩ := h.cases
  · simp only [EditOp.isEmpty, EditOp.equal, Bool.and_eq_true, beq_iff_eq]
    omega
  · cases htag
  · cases htag

theorem growBehind_walks (h : Walk (Simple old new total) (p.skip s) behind r)
    (halike : Alike old new p.old p.new s) (hs : 0 < s) (hrun : run.oldEnd = p.old + s)
    (hchange : change.newEnd = p.new + s) :
    Walk (Simple old new total) p (growBehind run change s behind) r := by
  have hfresh : Simple old new total p (.equal (run.oldEnd - s) (change.newEnd - s) s) := by
    rw [hrun, hchange, Nat.add_sub_cancel, Nat.add_sub_cancel]
    exact ⟨rfl, rfl, rfl, hs, halike⟩
  cases behind with
  | nil => exact ⟨hfresh, h⟩
  | cons op behind =>
    rw [growBehind]
    split
    · rename_i htag
      obtain ⟨n, hn, hrest, rfl⟩ | ⟨n, x, -, rfl⟩ | ⟨x, m, -, rfl⟩ := h.1.cases
      · have hjoined := halike.append hrest
        have hwalk := h.2
        rw [Place.after_equal, Place.skip_skip] at hwalk
        rw [growLeft_equal, walk_cons, Place.after_equal, Place.skip, Nat.add_sub_cancel,
          Nat.add_sub_cancel, Nat.add_comm n]
        exact ⟨⟨rfl, rfl, rfl, Nat.add_pos_left hs n, hjoined⟩, hwalk⟩
      · cases htag
      · cases htag
    · exact ⟨hfresh, h⟩

theorem growBefore_walks (h : Walk (Simple old new total) o before.reverse p)
    (halike : Alike old new p.old p.new s) (hs : 0 < s) (hrun : run.oldIndex = p.old)
    (hchange : change.newIndex = p.new) :
    Walk (Simple old new total) o (growBefore run change s before).reverse (p.skip s) := by
  have hfresh : Simple old new total p (.equal run.oldIndex change.newIndex s) := by
    rw [hrun, hchange]
    exact ⟨rfl, rfl, rfl, hs, halike⟩
  cases before with
  | nil =>
    obtain rfl := walk_nil.mp h
    exact ⟨hfresh, rfl⟩
  | cons op before =>
    rw [growBefore]
    split
    · rename_i htag
      obtain ⟨q, hwalk, hop, rfl⟩ := walk_reverse_cons.mp h
      obtain ⟨n, hn, hrest, rfl⟩ | ⟨n, x, -, rfl⟩ | ⟨x, m, -, rfl⟩ := hop.cases
      · refine walk_reverse_cons.mpr ⟨q, hwalk, ?_, ?_⟩
        · exact ⟨rfl, rfl, rfl, Nat.add_pos_right n hs, hrest.append halike⟩
        · rw [growRight_equal, Place.after_equal, Place.after_equal, Place.skip_skip]
      · cases htag
      · cases htag
    · exact walk_reverse_cons.mpr ⟨p, h, hfresh, rfl⟩

theorem Simple.join {a b : EditOp} (ha : Simple old new total p a)
    (hb : Simple old new total (p.after a) b) (htag : a.tag = b.tag) (hchange : a.tag ≠ .equal) :
    Simple old new total p (a.growRight (width b)) ∧
      p.after (a.growRight (width b)) = (p.after a).after b := by
  obtain ⟨n, -, -, rfl⟩ | ⟨n, x, hx, rfl⟩ | ⟨x, m, hx, rfl⟩ := ha.cases
  · exact absurd rfl hchange
  · obtain ⟨k, -, -, rfl⟩ | ⟨k, y, hy, rfl⟩ | ⟨y, k, hy, rfl⟩ := hb.cases
    · cases htag
    · exact ⟨⟨rfl, rfl, hx⟩, Place.ext (Nat.add_assoc _ _ _).symm rfl rfl⟩
    · cases htag
  · obtain ⟨k, -, -, rfl⟩ | ⟨k, y, hy, rfl⟩ | ⟨y, k, hy, rfl⟩ := hb.cases
    · cases htag
    · cases htag
    · exact ⟨⟨rfl, rfl, hx⟩, Place.ext rfl (Nat.add_assoc _ _ _).symm rfl⟩

theorem Simple.swap {a b : EditOp} (ha : Simple old new total p a)
    (hb : Simple old new total (p.after a) b) (htag : a.tag ≠ b.tag) (ha' : a.tag ≠ .equal)
    (hb' : b.tag ≠ .equal) :
    Simple old new total p b ∧ Simple old new total (p.after b) a ∧
      (p.after b).after a = (p.after a).after b := by
  obtain ⟨n, -, -, rfl⟩ | ⟨n, x, hx, rfl⟩ | ⟨x, m, hx, rfl⟩ := ha.cases
  · exact absurd rfl ha'
  · obtain ⟨k, -, -, rfl⟩ | ⟨k, y, hy, rfl⟩ | ⟨y, k, hy, rfl⟩ := hb.cases
    · exact absurd rfl hb'
    · exact absurd rfl htag
    · exact ⟨⟨rfl, rfl, hy⟩, ⟨rfl, rfl, hx⟩, rfl⟩
  · obtain ⟨k, -, -, rfl⟩ | ⟨k, y, hy, rfl⟩ | ⟨y, k, hy, rfl⟩ := hb.cases
    · exact absurd rfl hb'
    · exact ⟨⟨rfl, rfl, hy⟩, ⟨rfl, rfl, hx⟩, rfl⟩
    · exact absurd rfl htag

/-- The operations before the cursor, the one at it and those behind it lead from `p` to `r`. -/
def Cursor.Walks (fits : Place → EditOp → Prop) (p : Place) (c : Cursor) (r : Place) : Prop :=
  ∃ q, Walk fits p c.before.reverse q ∧ fits q c.here ∧ Walk fits (q.after c.here) c.behind r

variable [DecidableEq α]

theorem slideUp_step
    (h : Cursor.Walks (Simple old new total) p ⟨run :: before, here, behind⟩ r)
    (hrun : run.tag = .equal) (hchange : here.tag ≠ .equal) (hs : slackUp old new run here = s)
    (hpos : 0 < s) :
    ∃ o n, Walk (Simple old new total) p before.reverse o ∧ run = .equal o.old o.new n ∧
      Alike old new o.old o.new n ∧ s ≤ n ∧
      Simple old new total (o.skip (n - s)) (here.shiftLeft s) ∧
      Walk (Simple old new total) ((o.skip (n - s)).after (here.shiftLeft s))
        (growBehind run here s behind) r := by
  obtain ⟨q, hfront, hhere, hbehind⟩ := h
  obtain ⟨o, hbefore, hfits, rfl⟩ := walk_reverse_cons.mp hfront
  obtain ⟨n, hn, hrest, rfl⟩ | ⟨n, x, -, rfl⟩ | ⟨x, m, -, rfl⟩ := hfits.cases
  · have hle : s ≤ min n here.newCount := hs ▸ commonBack_le old new _ _ _
    rw [Place.after_equal] at hhere hbehind
    obtain ⟨k, -, -, rfl⟩ | ⟨k, y, -, rfl⟩ | ⟨y, k, hy, rfl⟩ := hhere.cases
    · exact absurd rfl hchange
    · -- the slack is counted on the new side, where a deletion has no items
      simp only [EditOp.delete] at hle
      omega
    · simp only [EditOp.insert] at hle
      simp only [Place.skip] at hy
      have hslack : Alike old new (o.old + (n - s)) (o.new + (n - s) + k) s := by
        have halike := (alike_commonBack old new (o.old + n) (o.new + n + k) (min n k)).2.2
        rw [show commonBack old new (o.old + n) (o.new + n + k) (min n k) = s from hs] at halike
        rwa [show o.old + n - s = o.old + (n - s) by omega,
          show o.new + n + k - s = o.new + (n - s) + k by omega] at halike
      have hplace : (o.skip n).after (.insert y (o.skip n).new k) =
          ((o.skip (n - s)).after (.insert (y - s) ((o.skip n).new - s) k)).skip s := by
        simp only [Place.after_insert, Place.skip, Place.mk.injEq]
        omega
      rw [shiftLeft_insert]
      refine ⟨o, n, hbefore, rfl, hrest, by omega, ⟨?_, rfl, ?_⟩, ?_⟩
      · simp only [EditOp.insert, Place.skip]
        omega
      · simp only [EditOp.insert, Place.skip]
        omega
      · refine growBehind_walks (hplace ▸ hbehind) hslack hpos ?_ ?_
        · simp only [EditOp.oldEnd, EditOp.equal, Place.after_insert, Place.skip]
          omega
        · simp only [EditOp.newEnd, EditOp.insert, Place.after, Place.skip]
          omega
  · cases hrun
  · cases hrun

theorem slideUp_walks (h : Cursor.Walks (Simple old new total) p ⟨before, here, behind⟩ r)
    (hchange : here.tag ≠ .equal) :
    (slideUp old new here behind before).Walks (Simple old new total) p r ∧
      (slideUp old new here behind before).here.tag = here.tag := by
  fun_induction slideUp old new here behind before with
  | case1 here behind => exact ⟨h, rfl⟩
  | case2 here behind prev before hprev s hs behind' here' hlt ih =>
    -- a part of the equal run stays in front of the change
    obtain ⟨o, n, hbefore, rfl, halike, -, hhere, hbehind⟩ := slideUp_step h hprev hchange rfl hs
    refine ih ⟨o.skip (n - s), ?_, hhere, hbehind⟩ hchange
    refine walk_reverse_cons.mpr ⟨o, hbefore, ?_, rfl⟩
    exact ⟨rfl, rfl, rfl, Nat.sub_pos_of_lt hlt, halike.front (Nat.sub_le n s)⟩
  | case3 here behind prev before hprev s hs behind' here' hlt ih =>
    -- the change has passed the whole run, which is dropped
    obtain ⟨o, n, hbefore, rfl, -, hle, hhere, hbehind⟩ := slideUp_step h hprev hchange rfl hs
    have hall : n - s = 0 := Nat.sub_eq_zero_of_le (Nat.le_of_not_lt hlt)
    rw [hall, Place.skip_zero] at hhere hbehind
    exact ih ⟨o, hbefore, hhere, hbehind⟩ hchange
  | case4 here behind prev before hprev s hs hempty ih =>
    obtain ⟨q, hfront, -, -⟩ := h
    obtain ⟨o, -, hfits, -⟩ := walk_reverse_cons.mp hfront
    exact absurd hempty (hfits.not_isEmpty hprev)
  | case5 here behind prev before hprev s hs hempty => exact ⟨h, rfl⟩
  | case6 here behind prev before hprev hsame ih =>
    obtain ⟨q, hfront, hhere, hbehind⟩ := h
    obtain ⟨o, hbefore, hfits, rfl⟩ := walk_reverse_cons.mp hfront
    obtain ⟨hjoin, hafter⟩ := hfits.join hhere hsame hprev
    have htag : (prev.growRight (width here)).tag = prev.tag := EditOp.resize_tag prev _
    rw [htag, hsame] at ih
    exact ih ⟨o, hbefore, hjoin, hafter ▸ hbehind⟩ hchange
  | case7 here behind prev before hprev hother ih =>
    obtain ⟨q, hfront, hhere, hbehind⟩ := h
    obtain ⟨o, hbefore, hfits, rfl⟩ := walk_reverse_cons.mp hfront
    obtain ⟨hhere, hprev, hafter⟩ := hfits.swap hhere hother hprev hchange
    exact ih ⟨o, hbefore, hhere, hprev, hafter ▸ hbehind⟩ hchange

theorem slideDown_step
    (h : Cursor.Walks (Simple old new total) p ⟨before, here, run :: behind⟩ r)
    (hrun : run.tag = .equal) (hchange : here.tag ≠ .equal) (hs : slackDown old new run here = s)
    (hpos : 0 < s) :
    ∃ q t n, Walk (Simple old new total) p (growBefore run here s before).reverse q ∧
      Simple old new total q (here.shiftRight s) ∧ q.after (here.shiftRight s) = t ∧
      run.oldCount = n + s ∧ run.shrinkRight s = .equal t.old t.new n ∧
      Alike old new t.old t.new n ∧ Walk (Simple old new total) (t.skip n) behind r := by
  obtain ⟨q, hbefore, hhere, hfits, hbehind⟩ := h
  have hle : s ≤ min run.oldCount here.newCount := hs ▸ commonFront_le old new _ _ _
  obtain ⟨k, -, -, rfl⟩ | ⟨k, y, -, rfl⟩ | ⟨y, k, hy, rfl⟩ := hhere.cases
  · exact absurd rfl hchange
  · simp only [EditOp.delete] at hle
    omega
  · rw [Place.after_insert] at hfits hbehind
    obtain ⟨n, hn, hrest, rfl⟩ | ⟨n, x, -, rfl⟩ | ⟨x, m, -, rfl⟩ := hfits.cases
    · simp only [EditOp.equal, EditOp.insert] at hle
      have hslack : Alike old new q.old q.new s := by
        have halike := alike_commonFront old new q.old q.new (min n k)
        rwa [show commonFront old new q.old q.new (min n k) = s from hs] at halike
      have hsn : s ≤ n := Nat.le_trans hle (Nat.min_le_left n k)
      have hrest' : Alike old new (q.old + s) (q.new + s + k) (n - s) := by
        have hpart := hrest.part (Nat.le_of_eq (Nat.add_sub_cancel' hsn))
        rwa [Nat.add_right_comm q.new k s] at hpart
      have hplace : Place.skip ⟨q.old, q.new + k, q.kept⟩ n =
          ((q.skip s).after (.insert (y + s) (q.new + s) k)).skip (n - s) := by
        simp only [Place.after_insert, Place.skip, Place.mk.injEq]
        omega
      rw [Place.after_equal, hplace] at hbehind
      refine ⟨q.skip s, _, n - s, growBefore_walks hbefore hslack hpos rfl rfl, ⟨rfl, rfl, ?_⟩,
        rfl, ?_, ?_, hrest', hbehind⟩
      · simp only [EditOp.shiftRight, EditOp.insert, Place.skip]
        omega
      · simp only [EditOp.equal]
        omega
      · rw [shrinkRight_equal, shiftRight_insert, Place.after_insert]
        simp only [Place.skip, Nat.add_right_comm q.new k s]
    · cases hrun
    · cases hrun

theorem slideDown_walks (h : Cursor.Walks (Simple old new total) p ⟨before, here, behind⟩ r)
    (hchange : here.tag ≠ .equal) :
    (slideDown old new before here behind).Walks (Simple old new total) p r := by
  fun_induction slideDown old new before here behind with
  | case1 before here => exact h
  | case2 before here next behind hnext s hs before' here' hlt ih =>
    obtain ⟨q, t, n, hbefore, hhere, rfl, hcount, hrest, halike, hbehind⟩ :=
      slideDown_step h hnext hchange rfl hs
    refine ih ⟨q, hbefore, hhere, ?_⟩ hchange
    rw [hrest]
    exact ⟨⟨rfl, rfl, rfl, by simp only [EditOp.equal]; omega, halike⟩, hbehind⟩
  | case3 before here next behind hnext s hs before' here' hlt ih =>
    -- nothing of the equal run is left behind the change
    obtain ⟨q, t, n, hbefore, hhere, rfl, hcount, -, -, hbehind⟩ :=
      slideDown_step h hnext hchange rfl hs
    obtain rfl : n = 0 := by omega
    exact ih ⟨q, hbefore, hhere, hbehind⟩ hchange
  | case4 before here next behind hnext s hs hempty ih =>
    obtain ⟨q, -, -, hfits, -⟩ := h
    exact absurd hempty (hfits.not_isEmpty hnext)
  | case5 before here next behind hnext s hs hempty => exact h
  | case6 before here next behind hnext hsame ih =>
    obtain ⟨q, hbefore, hhere, hfits, hbehind⟩ := h
    obtain ⟨hjoin, hafter⟩ := hhere.join hfits hsame.symm hchange
    have htag : (here.growRight (width next)).tag = here.tag := EditOp.resize_tag here _
    rw [htag] at ih
    exact ih ⟨q, hbefore, hjoin, hafter ▸ hbehind⟩ hchange
  | case7 before here next behind hnext hother ih =>
    obtain ⟨q, hbefore, hhere, hfits, hbehind⟩ := h
    obtain ⟨hnext, hhere, hafter⟩ := hhere.swap hfits (Ne.symm hother) hchange hnext
    refine ih ⟨q.after next, ?_, hhere, hafter ▸ hbehind⟩ hchange
    exact walk_reverse_cons.mpr ⟨q, hbefore, hnext, rfl⟩

theorem slideKind_walks {tag : EditTag} (htag : tag ≠ .equal) (turns : Nat)
    (hbefore : Walk (Simple old new total) p before.reverse q)
    (hops : Walk (Simple old new total) q ops r) :
    Walk (Simple old new total) p (slideKind old new tag turns before ops) r := by
  induction turns generalizing before ops q with
  | zero => exact walk_append.mpr ⟨q, hbefore, hops⟩
  | succ turns ih =>
    rw [slideKind]
    cases hdrop : ops.dropWhile (·.tag != tag) with
    | nil => exact walk_append.mpr ⟨q, hbefore, hops⟩
    | cons here behind =>
      have hhere : here.tag = tag := by
        have hnot := List.head?_dropWhile_not (·.tag != tag) ops
        rw [hdrop] at hnot
        simpa using hnot
      rw [← List.takeWhile_append_dropWhile (p := (·.tag != tag)) (l := ops), hdrop] at hops
      obtain ⟨t, hpassed, hfits, hbehind⟩ := walk_append.mp hops
      have hfront : Walk (Simple old new total) p
          ((ops.takeWhile (·.tag != tag)).reverse ++ before).reverse t := by
        rw [List.reverse_append, List.reverse_reverse]
        exact walk_append.mpr ⟨q, hbefore, hpassed⟩
      obtain ⟨hup, huptag⟩ :=
        slideUp_walks ⟨t, hfront, hfits, hbehind⟩ (hhere ▸ htag)
      obtain ⟨u, hdown, hdownHere, hdownBehind⟩ :=
        slideDown_walks hup (huptag ▸ hhere ▸ htag)
      exact ih (walk_reverse_cons.mpr ⟨u, hdown, hdownHere, rfl⟩) hdownBehind

theorem slideAll_walks {tag : EditTag} (htag : tag ≠ .equal)
    (h : Walk (Simple old new total) p ops r) :
    Walk (Simple old new total) p (slideAll old new tag ops) r :=
  slideKind_walks htag _ rfl h

end DiffBudget.EditScript
