import DiffBudget.EditScript.Group
import DiffBudget.Proofs.EditScript.Tidy

/-!
# Groups of a joined script

What the groups leave out are equal items. A group begins and ends with equal items, unless it
begins where the script begins or ends where it ends.
-/
namespace DiffBudget.EditScript

variable {α : Type} {old new : Array α} {o p q r : Place} {op : EditOp} {ops g : List EditOp}
  {gs : List (List EditOp)} {radius : Nat}

/-- Groups behind the place `p` of a script from `o` to `r`, where only equal items part them. -/
def Spaced (old new : Array α) (o r : Place) (p : Place) : List (List EditOp) → Prop
  | [] => ∃ k, Alike old new p.old p.new k ∧ p.skip k = r
  | g :: gs => ∃ k, Alike old new p.old p.new k ∧ ∃ q, Walk (Tidy old new) (p.skip k) g q ∧
      (∀ op ∈ g.head?, op.tag = .equal ∨ p.skip k = o) ∧
      (∀ op ∈ g.getLast?, op.tag = .equal ∨ q = r) ∧ Spaced old new o r q gs

theorem Tidy.equal (h : Tidy old new p op) (htag : op.tag = .equal) :
    ∃ n, 0 < n ∧ Alike old new p.old p.new n ∧ op = .equal p.old p.new n := by
  obtain hequal | ⟨n, x, -, rfl⟩ | ⟨x, m, -, rfl⟩ | ⟨n, m, rfl⟩ := h.cases
  · exact hequal
  · cases htag
  · cases htag
  · cases htag

theorem keepBack_equal (radius i j n : Nat) : keepBack radius (.equal i j n) =
    .equal (i + (n - radius)) (j + (n - radius)) (n - (n - radius)) := rfl

section Keep

variable {n : Nat} (hradius : 0 < radius) (hn : 0 < n) (halike : Alike old new p.old p.new n)

include hradius hn halike

theorem keepBack_tidy :
    Tidy old new (p.skip (n - radius)) (keepBack radius (.equal p.old p.new n)) ∧
      (p.skip (n - radius)).after (keepBack radius (.equal p.old p.new n)) = p.skip n := by
  have hsplit : n - radius + (n - (n - radius)) = n := by omega
  have hpos : 0 < n - (n - radius) := by omega
  rw [keepBack_equal, Place.after_equal, Place.skip_skip, hsplit]
  exact ⟨⟨rfl, rfl, rfl, hpos, halike.part (Nat.le_of_eq hsplit)⟩, rfl⟩

theorem keepFront_tidy :
    Tidy old new p (keepFront radius (.equal p.old p.new n)) ∧
      p.after (keepFront radius (.equal p.old p.new n)) = p.skip (n - (n - radius)) := by
  have hpos : 0 < n - (n - radius) := by omega
  exact ⟨⟨rfl, rfl, rfl, hpos, halike.front (Nat.sub_le _ _)⟩, rfl⟩

end Keep

theorem trimFront_walks (hradius : 0 < radius) (h : Walk (Tidy old new) p ops r) :
    ∃ k, Alike old new p.old p.new k ∧
      Walk (Tidy old new) (p.skip k) (trimFront radius ops) r ∧
      ∀ op ∈ (trimFront radius ops).head?, op.tag = .equal ∨ k = 0 := by
  cases ops with
  | nil => exact ⟨0, alike_zero _ _ _ _, h, fun op hop => by cases hop⟩
  | cons op ops =>
    rw [trimFront]
    split
    · rename_i htag
      obtain ⟨n, hn, halike, rfl⟩ := h.1.equal htag
      obtain ⟨hkept, hafter⟩ := keepBack_tidy hradius hn halike
      refine ⟨n - radius, halike.front (Nat.sub_le _ _), ⟨hkept, ?_⟩, ?_⟩
      · rw [hafter]
        exact h.2
      · rintro op ⟨⟩
        exact .inl rfl
    · exact ⟨0, alike_zero _ _ _ _, h, fun op _ => .inr rfl⟩

theorem trimBack_walks (hradius : 0 < radius) (h : Walk (Tidy old new) p ops r) :
    ∃ q k, Walk (Tidy old new) p (trimBack radius ops) q ∧ Alike old new q.old q.new k ∧
      q.skip k = r ∧ (trimBack radius ops).head?.map (·.tag) = ops.head?.map (·.tag) ∧
      ∀ op ∈ (trimBack radius ops).getLast?, op.tag = .equal ∨ k = 0 := by
  fun_induction trimBack radius ops generalizing p with
  | case1 => exact ⟨p, 0, rfl, alike_zero _ _ _ _, h, rfl, fun op hop => by cases hop⟩
  | case2 op =>
    split
    · rename_i htag
      obtain ⟨n, hn, halike, rfl⟩ := h.1.equal htag
      obtain ⟨hkept, hafter⟩ := keepFront_tidy hradius hn halike
      have hsplit : n - (n - radius) + (n - radius) = n := by omega
      refine ⟨p.skip (n - (n - radius)), n - radius, ⟨hkept, hafter⟩,
        halike.part (Nat.le_of_eq hsplit), ?_, rfl, ?_⟩
      · rw [Place.skip_skip, hsplit]
        exact h.2
      · rintro op ⟨⟩
        exact .inl rfl
    · exact ⟨r, 0, h, alike_zero _ _ _ _, rfl, rfl, fun op _ => .inr rfl⟩
  | case3 op ops hne ih =>
    obtain ⟨q, k, hwalk, halike, hend, hhead, hlast⟩ := ih h.2
    obtain ⟨next, rest, rfl⟩ := List.exists_cons_of_ne_nil hne
    obtain ⟨next', rest', htrim⟩ :
        ∃ next' rest', trimBack radius (next :: rest) = next' :: rest' := by
      cases htrim : trimBack radius (next :: rest) with
      | nil => simp [htrim] at hhead
      | cons next' rest' => exact ⟨next', rest', rfl⟩
    refine ⟨q, k, ⟨h.1, hwalk⟩, halike, hend, rfl, ?_⟩
    rwa [htrim, List.getLast?_cons_cons, ← htrim]

theorem cutRuns_spaced {k : Nat} (hradius : 0 < radius) (h : Walk (Tidy old new) p ops q)
    (halike : Alike old new q.old q.new k) (hend : q.skip k = r)
    (hlast : ∀ op ∈ ops.getLast?, op.tag = .equal ∨ q = r) :
    ∃ g gs t, cutRuns radius ops = g :: gs ∧ Walk (Tidy old new) p g t ∧
      g.head?.map (·.tag) = ops.head?.map (·.tag) ∧
      (∀ op ∈ g.getLast?, op.tag = .equal ∨ t = r) ∧ Spaced old new o r t gs := by
  induction ops generalizing p with
  | nil =>
    obtain rfl := walk_nil.mp h
    exact ⟨[], [], p, rfl, rfl, rfl, fun op hop => by simp at hop, k, halike, hend⟩
  | cons op ops ih =>
    have hlast' : ∀ last ∈ ops.getLast?, last.tag = .equal ∨ q = r := by
      cases ops with
      | nil => exact fun last hmem => by simp at hmem
      | cons next ops => rwa [List.getLast?_cons_cons] at hlast
    obtain ⟨g, gs, t, hcut, hwalk, hhead, hback, hspaced⟩ := ih h.2 hlast'
    have hgroup : ∀ last ∈ (op :: g).getLast?, last.tag = .equal ∨ t = r := by
      cases g with
      | nil =>
        cases ops with
        | nil =>
          obtain rfl := walk_nil.mp hwalk
          obtain rfl := walk_nil.mp h.2
          exact hlast
        | cons next ops => simp at hhead
      | cons next g => rwa [List.getLast?_cons_cons]
    simp only [cutRuns, hcut]
    split
    · -- a long run ends one group and begins the next, and its middle parts them
      rename_i hlong
      obtain ⟨n, hn, hrun, rfl⟩ := h.1.equal hlong.1
      simp only [EditOp.equal] at hlong
      obtain ⟨hfront, hfrontEnd⟩ := keepFront_tidy hradius hn hrun
      obtain ⟨hbackRun, hbackEnd⟩ := keepBack_tidy hradius hn hrun
      have hgap : n - (n - radius) + (n - 2 * radius) = n - radius := by omega
      have hinside : n - (n - radius) + (n - 2 * radius) ≤ n := by omega
      refine ⟨[_], _ :: gs, p.skip (n - (n - radius)), rfl, ⟨hfront, hfrontEnd⟩, rfl, ?_,
        n - 2 * radius, hrun.part hinside, t, ?_, ?_, ?_, hspaced⟩
      · rintro op ⟨⟩
        exact .inl rfl
      · rw [Place.skip_skip, hgap]
        exact ⟨hbackRun, hbackEnd ▸ hwalk⟩
      · rintro op ⟨⟩
        exact .inl rfl
      · cases g with
        | nil =>
          rintro op ⟨⟩
          exact .inl rfl
        | cons next g =>
          rw [List.getLast?_cons_cons] at hgroup ⊢
          exact hgroup
    · exact ⟨op :: g, gs, t, rfl, ⟨h.1, hwalk⟩, rfl, hgroup, hspaced⟩

theorem Spaced.skip {k : Nat} (halike : Alike old new p.old p.new k)
    (h : Spaced old new o r (p.skip k) gs) : Spaced old new o r p gs := by
  cases gs with
  | nil =>
    obtain ⟨n, hrest, hend⟩ := h
    exact ⟨k + n, halike.append hrest, Place.skip_skip p k n ▸ hend⟩
  | cons g gs =>
    obtain ⟨n, hrest, q, hgroup⟩ := h
    rw [Place.skip_skip] at hgroup
    exact ⟨k + n, halike.append hrest, q, hgroup⟩

theorem walk_of_equals (h : Walk (Tidy old new) p ops q) (hequal : ∀ op ∈ ops, op.tag = .equal) :
    ∃ k, Alike old new p.old p.new k ∧ p.skip k = q := by
  induction ops generalizing p with
  | nil => exact ⟨0, alike_zero _ _ _ _, h⟩
  | cons op ops ih =>
    obtain ⟨n, -, halike, rfl⟩ := h.1.equal (hequal op List.mem_cons_self)
    obtain ⟨k, hrest, rfl⟩ := ih h.2 fun o ho => hequal o (List.mem_cons_of_mem _ ho)
    exact ⟨n + k, halike.append hrest, (Place.skip_skip p n k).symm⟩

theorem Spaced.filter (h : Spaced old new o r p gs) :
    Spaced old new o r p (gs.filter fun g => g.any (·.tag != .equal)) := by
  induction gs generalizing p with
  | nil => exact h
  | cons g gs ih =>
    obtain ⟨k, halike, q, hwalk, hfront, hback, hrest⟩ := h
    by_cases hg : g.any (·.tag != .equal) = true
    · rw [List.filter_cons, if_pos hg]
      exact ⟨k, halike, q, hwalk, hfront, hback, ih hrest⟩
    · rw [List.filter_cons, if_neg hg]
      have hequal : ∀ op ∈ g, op.tag = .equal := by simpa using hg
      obtain ⟨n, hrun, rfl⟩ := walk_of_equals hwalk hequal
      exact ((ih hrest).skip hrun).skip halike

theorem groups_spaced (hradius : 0 < radius) (h : Walk (Tidy old new) o ops r) :
    Spaced old new o r o (groups radius ops) := by
  obtain ⟨k, hfront, hwalk, hfirst⟩ := trimFront_walks hradius h
  obtain ⟨q, l, hwalk, hback, hend, hhead, hlast⟩ := trimBack_walks hradius hwalk
  have hends : ∀ op ∈ (trimBack radius (trimFront radius ops)).getLast?,
      op.tag = .equal ∨ q = r := fun op hop => (hlast op hop).imp_right fun hl => by
    rwa [hl, Place.skip_zero] at hend
  obtain ⟨g, gs, t, hcut, hgroup, hgroupHead, hgroupLast, hspaced⟩ :=
    cutRuns_spaced hradius (o := o) hwalk hback hend hends
  rw [groups, hcut]
  refine Spaced.filter ⟨k, hfront, t, hgroup, fun op hop => ?_, hgroupLast, hspaced⟩
  rw [hhead, Option.mem_def.mp hop, eq_comm, Option.map_some, Option.map_eq_some_iff] at hgroupHead
  obtain ⟨first, hmem, htag⟩ := hgroupHead
  rw [← htag]
  refine (hfirst first hmem).imp_right fun hk => ?_
  rw [hk, Place.skip_zero]

end DiffBudget.EditScript
