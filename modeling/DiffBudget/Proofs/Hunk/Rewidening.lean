import DiffBudget.Proofs.Hunk.Widening

/-!
# Widening twice

A window grows by what is asked for until it reaches an end of the file, so two steps come to what
one step of their sum comes to. The windows of two covers meet in the second step exactly when
those of the last hunk of the one and the first hunk of the other meet in the single step.
Therefore both ways make the same groups, and a cover of covers is the cover of all their hunks.
-/
namespace DiffBudget

theorem isChain_and {α : Type} {r s : α → α → Prop} {as : List α} (hr : as.IsChain r)
    (hs : as.IsChain s) : as.IsChain fun a b => r a b ∧ s a b := by
  rw [List.isChain_iff_forall_rel_of_append_cons_cons] at *
  exact fun a b front back h => ⟨hr h, hs h⟩

section Runs

variable {α β : Type} {f : α → List β} {first last : α → β}
  (hfirst : ∀ a, (f a).head? = some (first a)) (hlast : ∀ a, (f a).getLast? = some (last a))

include hfirst in
theorem head?_flatMap (as : List α) : (as.flatMap f).head? = as.head?.map first := by
  cases as with
  | nil => rfl
  | cons a as => rw [List.flatMap_cons, List.head?_append, hfirst, List.head?_cons]; rfl

include hlast in
theorem getLast?_flatMap (as : List α) : (as.flatMap f).getLast? = as.getLast?.map last := by
  induction as with
  | nil => rfl
  | cons a as ih =>
    rw [List.flatMap_cons, List.getLast?_append, ih, hlast, List.getLast?_cons]
    cases as.getLast? <;> rfl

include hfirst in
theorem flatMap_ne_nil {as : List α} (h : as ≠ []) : as.flatMap f ≠ [] := by
  rw [ne_eq, ← List.head?_eq_none_iff, head?_flatMap hfirst, Option.map_eq_none_iff,
    List.head?_eq_none_iff]
  exact h

include hfirst hlast

theorem isChain_flatMap {r : β → β → Prop} {as : List α} (hinner : ∀ a ∈ as, (f a).IsChain r)
    (houter : as.IsChain fun a b => r (last a) (first b)) : (as.flatMap f).IsChain r := by
  induction as with
  | nil => exact .nil
  | cons a as ih =>
    obtain ⟨ha, has⟩ := List.forall_mem_cons.mp hinner
    obtain ⟨hhead, htail⟩ := List.isChain_cons.mp houter
    rw [List.flatMap_cons]
    refine ha.append (ih has htail) fun x hx y hy => ?_
    rw [hlast] at hx
    rw [head?_flatMap hfirst] at hy
    obtain ⟨b, hb, rfl⟩ := Option.map_eq_some_iff.mp hy
    exact Option.some.inj hx ▸ hhead b hb

theorem splitBy_flatMap {r : β → β → Bool} {s : α → α → Bool} {as : List α}
    (hinner : ∀ a ∈ as, (f a).IsChain fun x y => r x y = true)
    (houter : as.IsChain fun a b => r (last a) (first b) = s a b) :
    (as.flatMap f).splitBy r = (as.splitBy s).map (·.flatMap f) := by
  have hblocks := (List.isChain_flatten (List.nil_notMem_splitBy s as)).mp
    (by rwa [List.flatten_splitBy])
  rw [List.splitBy_eq_iff]
  refine ⟨?_, ?_, ?_, ?_⟩
  · rw [← List.flatMap_def, ← List.flatMap_assoc, List.flatMap_id', List.flatten_splitBy]
  · rw [List.mem_map]
    rintro ⟨block, hblock, hnil⟩
    exact flatMap_ne_nil hfirst (List.ne_nil_of_mem_splitBy hblock) hnil
  · intro _ hmem
    obtain ⟨block, hblock, rfl⟩ := List.mem_map.mp hmem
    have hmembers : ∀ a ∈ block, a ∈ as := fun a ha => by
      rw [← List.flatten_splitBy s as]
      exact List.mem_flatten_of_mem hblock ha
    refine isChain_flatMap hfirst hlast (fun a ha => hinner a (hmembers a ha)) ?_
    refine (isChain_and (hblocks.1 block hblock) (List.isChain_of_mem_splitBy hblock)).imp ?_
    exact fun a b h => h.1.trans h.2
  · rw [List.isChain_map]
    refine (isChain_and hblocks.2 (List.isChain_getLast_head_splitBy s as)).imp ?_
    rintro front back ⟨hagree, hfront, hback, hapart⟩
    refine ⟨flatMap_ne_nil hfirst hfront, flatMap_ne_nil hfirst hback, ?_⟩
    have hend : (front.flatMap f).getLast (flatMap_ne_nil hfirst hfront) =
        last (front.getLast hfront) := by
      rw [List.getLast_eq_iff_getLast?_eq_some, getLast?_flatMap hlast,
        List.getLast?_eq_some_getLast hfront]
      rfl
    have hstart : (back.flatMap f).head (flatMap_ne_nil hfirst hback) =
        first (back.head hback) := by
      rw [List.head_eq_iff_head?_eq_some, head?_flatMap hfirst, List.head?_eq_some_head hback]
      rfl
    rw [hend, hstart, hagree _ (List.getLast_mem_getLast? hfront) _ (List.head_mem_head? hback)]
    exact hapart

end Runs

namespace Hunk

/-- Neighbours that are covered by one hunk. -/
structure Group where
  first : Hunk
  rest : List Hunk

namespace Group

def hunks (g : Group) : List Hunk := g.first :: g.rest

def last (g : Group) : Hunk := lastOf g.first g.rest

def cover (oldLines : List Text) (before after : Nat) (g : Group) : Hunk :=
  coverGroup oldLines before after g.first g.rest

def joins (length before after : Nat) (g h : Group) : Bool :=
  meets length before after g.last h.first

def merge (g : Group) (gs : List Group) : Group := ⟨g.first, g.rest ++ gs.flatMap hunks⟩

def coversOf (oldLines : List Text) (before after : Nat) (g : Group) (gs : List Group) : Group :=
  ⟨g.cover oldLines before after, gs.map (cover oldLines before after)⟩

theorem head?_hunks (g : Group) : g.hunks.head? = some g.first := rfl

theorem getLast?_hunks (g : Group) : g.hunks.getLast? = some g.last :=
  List.getLast?_eq_some_getLast _

theorem first_merge (g : Group) (gs : List Group) : (g.merge gs).first = g.first := rfl

theorem first_coversOf (oldLines : List Text) (before after : Nat) (g : Group) (gs : List Group) :
    (g.coversOf oldLines before after gs).first = g.cover oldLines before after := rfl

theorem merge_nil (g : Group) : g.merge [] = g := by
  rw [merge, List.flatMap_nil, List.append_nil]

theorem hunks_merge_cons (g h : Group) (gs : List Group) :
    (g.merge (h :: gs)).hunks = g.hunks ++ (h.merge gs).hunks := rfl

theorem last_merge_cons (g h : Group) (gs : List Group) :
    (g.merge (h :: gs)).last = (h.merge gs).last := by
  refine Option.some.inj ?_
  rw [← getLast?_hunks, ← getLast?_hunks, hunks_merge_cons, List.getLast?_append, getLast?_hunks]
  rfl

theorem exists_map_hunks {gs : List (List Hunk)} (hne : [] ∉ gs) :
    ∃ ps : List Group, ps.map hunks = gs := by
  induction gs with
  | nil => exact ⟨[], rfl⟩
  | cons g gs ih =>
    obtain ⟨ps, rfl⟩ := ih fun hmem => hne (List.mem_cons_of_mem _ hmem)
    cases g with
    | nil => exact absurd List.mem_cons_self hne
    | cons first rest => exact ⟨⟨first, rest⟩ :: ps, rfl⟩

theorem covers_map_hunks (oldLines : List Text) (before after : Nat) (gs : List Group) :
    covers oldLines before after (gs.map hunks) = gs.map (cover oldLines before after) := by
  rw [covers, List.filterMap_map, ← List.filterMap_eq_map]
  rfl

end Group

section Windows

variable {length before after before₂ after₂ : Nat} {h c : Hunk}

theorem lead_add (hin : h.oldFirst ≤ length + 1)
    (hc : c.oldFirst = h.oldFirst - h.lead length before) :
    h.lead length before + c.lead length before₂ = h.lead length (before + before₂) := by
  simp only [lead] at *
  split_ifs at * <;> omega

theorem trail_add (hc : c.oldEnd = h.oldEnd + h.trail length after) :
    h.trail length after + c.trail length after₂ = h.trail length (after + after₂) := by
  simp only [trail] at *
  omega

end Windows

section Clear

variable {oldLines : List Text} {before after before₂ after₂ pos : Nat} {shift : Int}

/-- The windows of two groups do not overlap, and the lines between them exist. -/
structure Clear (oldLines : List Text) (before after : Nat) (g h : Group) : Prop where
  oldEnd : (g.cover oldLines before after).oldEnd =
    g.last.oldEnd + g.last.trail oldLines.length after
  apart : g.last.oldEnd + g.last.trail oldLines.length after ≤
    h.first.oldFirst - h.first.lead oldLines.length before
  inside : h.first.oldFirst ≤ oldLines.length + 1

theorem cover_oldFirst (oldLines : List Text) (before after : Nat) (g : Group) :
    (g.cover oldLines before after).oldFirst =
      g.first.oldFirst - g.first.lead oldLines.length before :=
  coverGroup_oldFirst oldLines before after g.first g.rest

theorem cover_newFirst (oldLines : List Text) (before after : Nat) (g : Group) :
    (g.cover oldLines before after).newFirst =
      max (g.first.newFirst - g.first.lead oldLines.length before) 1 :=
  coverGroup_newFirst oldLines before after g.first g.rest

theorem cover_oldEnd {g : Group} (placed : PlacedFrom oldLines.length pos shift g.hunks) :
    (g.cover oldLines before after).oldEnd =
      g.last.oldEnd + g.last.trail oldLines.length after :=
  coverGroup_oldEnd before after placed

theorem isChain_clear {gs : List Group}
    (placed : PlacedFrom oldLines.length pos shift (gs.flatMap Group.hunks))
    (hapart : gs.IsChain fun g h => g.joins oldLines.length before after h = false) :
    gs.IsChain (Clear oldLines before after) := by
  induction gs generalizing pos shift with
  | nil => exact .nil
  | cons g gs ih =>
    rw [List.flatMap_cons] at placed
    have hbehind := placed.behind
    refine List.isChain_cons.mpr ⟨fun h hh => ?_, ih hbehind hapart.tail⟩
    have hmeets := (List.isChain_cons.mp hapart).1 h hh
    have hhead : h.first ∈ (gs.flatMap Group.hunks).head? := by
      rw [head?_flatMap Group.head?_hunks, Option.mem_def.mp hh]
      rfl
    have horder : g.last.oldEnd ≤ h.first.oldFirst := by
      have hle := hbehind.le_head h.first hhead
      rwa [Group.hunks, endFrom_cons] at hle
    have hinside : h.first.oldFirst ≤ oldLines.length + 1 :=
      h.first.oldFirst_le_oldEnd.trans (hbehind.inside h.first (List.mem_of_head? hhead))
    exact ⟨cover_oldEnd placed.front, windows_apart hmeets horder hinside, hinside⟩

variable {g h : Group}

theorem Clear.meets_cover (clear : Clear oldLines before after g h) :
    meets oldLines.length before₂ after₂ (g.cover oldLines before after)
        (h.cover oldLines before after) =
      g.joins oldLines.length (before + before₂) (after + after₂) h := by
  have hfirst := cover_oldFirst oldLines before after h
  have hlead : h.first.lead oldLines.length before +
      (h.cover oldLines before after).lead oldLines.length before₂ =
        h.first.lead oldLines.length (before + before₂) := lead_add clear.inside hfirst
  have htrail : g.last.trail oldLines.length after +
      (g.cover oldLines before after).trail oldLines.length after₂ =
        g.last.trail oldLines.length (after + after₂) := trail_add clear.oldEnd
  have hpos := g.last.oldEnd_pos
  have hapart := clear.apart
  have hinside := clear.inside
  rw [Bool.eq_iff_iff]
  simp only [Group.joins, meets, Bool.and_eq_true, decide_eq_true_eq, clear.oldEnd, hfirst, ← hlead,
    ← htrail]
  omega

theorem contextFrom_append (oldLines : List Text) {first : Nat} (hfirst : 1 ≤ first) (m n : Nat) :
    contextFrom oldLines first m ++ contextFrom oldLines (first + m) n =
      contextFrom oldLines first (m + n) := by
  rw [contextFrom_eq, contextFrom_eq, contextFrom_eq, ← List.map_append,
    cut_append_cut oldLines hfirst (Nat.le_add_right _ _) (Nat.le_add_right _ _), Nat.add_assoc]

theorem Clear.gap_eq (clear : Clear oldLines before after g h) :
    contextFrom oldLines g.last.oldEnd (g.last.trail oldLines.length after) ++
        gap oldLines (g.cover oldLines before after) (h.cover oldLines before after) ++
        contextFrom oldLines (h.cover oldLines before after).oldFirst
          (h.first.lead oldLines.length before) =
      gap oldLines g.last h.first := by
  have hpos := g.last.oldEnd_pos
  have hlead := lead_lt_oldFirst oldLines.length before h.first
  obtain ⟨between, hbetween⟩ := Nat.exists_eq_add_of_le clear.apart
  have hnumber : g.last.trail oldLines.length after + between +
      h.first.lead oldLines.length before = h.first.oldFirst - g.last.oldEnd := by omega
  rw [gap, gap, clear.oldEnd, cover_oldFirst, hbetween, Nat.add_sub_cancel_left,
    contextFrom_append oldLines hpos, Nat.add_assoc, contextFrom_append oldLines hpos, hnumber]

theorem joinedBody_append (oldLines : List Text) (first : Hunk) (rest : List Hunk) (next : Hunk)
    (tail : List Hunk) :
    joinedBody oldLines first (rest ++ next :: tail) =
      joinedBody oldLines first rest ++ gap oldLines (lastOf first rest) next ++
        joinedBody oldLines next tail := by
  induction rest generalizing first with
  | nil => rfl
  | cons second rest ih =>
    rw [List.cons_append, joinedBody, joinedBody, ih second]
    simp only [List.append_assoc]
    rfl

theorem cover_body (oldLines : List Text) (before after : Nat) (g : Group) :
    (g.cover oldLines before after).body =
      contextFrom oldLines (g.cover oldLines before after).oldFirst
          (g.first.lead oldLines.length before) ++
        joinedBody oldLines g.first g.rest ++
        contextFrom oldLines g.last.oldEnd (g.last.trail oldLines.length after) := by
  rw [cover_oldFirst]
  exact coverGroup_body oldLines before after g.first g.rest

theorem joinedBody_coversOf {g : Group} {gs : List Group}
    (clear : (g :: gs).IsChain (Clear oldLines before after)) :
    joinedBody oldLines (g.cover oldLines before after)
        (gs.map (Group.cover oldLines before after)) =
      contextFrom oldLines (g.cover oldLines before after).oldFirst
          (g.first.lead oldLines.length before) ++
        joinedBody oldLines g.first (g.merge gs).rest ++
        contextFrom oldLines (g.merge gs).last.oldEnd
          ((g.merge gs).last.trail oldLines.length after) := by
  induction gs generalizing g with
  | nil =>
    rw [Group.merge_nil]
    exact cover_body oldLines before after g
  | cons h gs ih =>
    obtain ⟨hclear, hrest⟩ := List.isChain_cons_cons.mp clear
    have hjoin : joinedBody oldLines g.first (g.merge (h :: gs)).rest =
        joinedBody oldLines g.first g.rest ++ gap oldLines g.last h.first ++
          joinedBody oldLines h.first (h.merge gs).rest :=
      joinedBody_append oldLines g.first g.rest h.first (h.merge gs).rest
    rw [List.map_cons, joinedBody, ih hrest, cover_body, Group.last_merge_cons, hjoin,
      ← hclear.gap_eq]
    simp only [List.append_assoc]

structure Rebuilt (h : Hunk) : Prop where
  oldStart : h.oldStart = startOf h.oldFirst h.oldCount
  newStart : h.newStart = startOf h.newFirst h.newCount
  written : h.written = none

theorem Rebuilt.ext {c d : Hunk} (hc : c.Rebuilt) (hd : d.Rebuilt)
    (holdFirst : c.oldFirst = d.oldFirst) (holdCount : c.oldCount = d.oldCount)
    (hnewFirst : c.newFirst = d.newFirst) (hnewCount : c.newCount = d.newCount)
    (hcomment : c.comment = d.comment) (hbody : c.body = d.body) : c = d := by
  have holdStart := hc.oldStart
  have hnewStart := hc.newStart
  have hwritten := hc.written
  rw [holdFirst, holdCount, ← hd.oldStart] at holdStart
  rw [hnewFirst, hnewCount, ← hd.newStart] at hnewStart
  rw [← hd.written] at hwritten
  cases c
  cases d
  simp_all only

def Group.Untouched (length before after : Nat) (g : Group) : Prop :=
  g.rest = [] ∧ g.first.lead length before = 0 ∧ g.last.trail length after = 0

theorem cover_of_untouched {g : Group} (h : g.Untouched oldLines.length before after) :
    g.cover oldLines before after = g.first := by
  obtain ⟨first, rest⟩ := g
  obtain ⟨rfl, hlead, htrail⟩ := h
  have hlast : (lastOf first []).trail oldLines.length after = 0 := htrail
  simp only [Group.cover, coverGroup, hlead, hlast]
  rfl

theorem cover_rebuilt {g : Group} (h : ¬g.Untouched oldLines.length before after) :
    (g.cover oldLines before after).Rebuilt := by
  obtain ⟨first, rest⟩ := g
  rcases coverGroup_cases oldLines before after first rest with ⟨rfl, hlead, htrail, -⟩ | hc
  · exact absurd ⟨rfl, hlead, htrail⟩ h
  · rw [Group.cover, hc]
    constructor
    · exact congrArg (startOf · _) (firstLine_startOf (Nat.le_max_right _ _) _).symm
    · exact congrArg (startOf · _) (firstLine_startOf (Nat.le_max_right _ _) _).symm
    · rfl

theorem cover_comment (oldLines : List Text) (before after : Nat) (g : Group) :
    (g.cover oldLines before after).comment = g.first.comment := by
  rw [Group.cover]
  rcases coverGroup_cases oldLines before after g.first g.rest with ⟨-, -, -, hc⟩ | hc <;> rw [hc]

theorem shiftOf_append (hs ts : List Hunk) : shiftOf (hs ++ ts) = shiftOf hs + shiftOf ts := by
  induction hs with
  | nil => simp
  | cons h hs ih => rw [List.cons_append, shiftOf_cons, shiftOf_cons, ih, add_assoc]

theorem shiftOf_covers (oldLines : List Text) (before after : Nat) (gs : List Group) :
    shiftOf (gs.map (Group.cover oldLines before after)) = shiftOf (gs.flatMap Group.hunks) := by
  induction gs with
  | nil => rfl
  | cons g gs ih =>
    rw [List.map_cons, shiftOf_cons, List.flatMap_cons, shiftOf_append, ih, Group.cover,
      coverGroup_shift]
    rfl

theorem last_coversOf_oldEnd (before after : Nat) {g : Group} {gs : List Group}
    (placed : PlacedFrom oldLines.length pos shift (g.merge gs).hunks) :
    (g.coversOf oldLines before after gs).last.oldEnd =
      (g.merge gs).last.oldEnd + (g.merge gs).last.trail oldLines.length after := by
  induction gs generalizing g pos shift with
  | nil =>
    rw [Group.merge_nil] at placed ⊢
    exact cover_oldEnd placed
  | cons h gs ih =>
    rw [Group.hunks_merge_cons] at placed
    rw [Group.last_merge_cons, ← ih placed.behind]
    rfl

section CoverOfCovers

variable {g : Group} {gs : List Group}
  (placed : PlacedFrom oldLines.length pos shift (g.merge gs).hunks)

include placed

theorem lead_coversOf (before after before₂ : Nat) :
    g.first.lead oldLines.length before +
        (g.cover oldLines before after).lead oldLines.length before₂ =
      g.first.lead oldLines.length (before + before₂) :=
  lead_add (g.first.oldFirst_le_oldEnd.trans (placed.inside g.first List.mem_cons_self))
    (cover_oldFirst oldLines before after g)

theorem trail_coversOf (before after after₂ : Nat) :
    (g.merge gs).last.trail oldLines.length after +
        (g.coversOf oldLines before after gs).last.trail oldLines.length after₂ =
      (g.merge gs).last.trail oldLines.length (after + after₂) :=
  trail_add (last_coversOf_oldEnd before after placed)

theorem untouched_merge_iff :
    (g.merge gs).Untouched oldLines.length (before + before₂) (after + after₂) ↔
      g.Untouched oldLines.length before after ∧
        (g.coversOf oldLines before after gs).Untouched oldLines.length before₂ after₂ := by
  have hlead := lead_coversOf placed before after before₂
  have htrail := trail_coversOf placed before after after₂
  simp only [Group.Untouched, Group.first_merge, ← hlead, ← htrail, Nat.add_eq_zero_iff]
  cases gs with
  | nil =>
    rw [Group.merge_nil]
    constructor
    · rintro ⟨hrest, ⟨hlead, hlead₂⟩, htrail, htrail₂⟩
      exact ⟨⟨hrest, hlead, htrail⟩, rfl, hlead₂, htrail₂⟩
    · rintro ⟨⟨hrest, hlead, htrail⟩, -, hlead₂, htrail₂⟩
      exact ⟨hrest, ⟨hlead, hlead₂⟩, htrail, htrail₂⟩
  | cons h gs => simp [Group.merge, Group.coversOf, Group.hunks]

/-- A hunk keeps its header through both steps only where one step of their sum keeps it. -/
theorem cover_coversOf_rebuilt
    (h : ¬(g.merge gs).Untouched oldLines.length (before + before₂) (after + after₂)) :
    ((g.coversOf oldLines before after gs).cover oldLines before₂ after₂).Rebuilt := by
  by_cases hsecond : (g.coversOf oldLines before after gs).Untouched oldLines.length before₂ after₂
  · rw [cover_of_untouched hsecond]
    exact cover_rebuilt fun hfirst => h ((untouched_merge_iff placed).mpr ⟨hfirst, hsecond⟩)
  · exact cover_rebuilt hsecond

theorem cover_coversOf_oldFirst :
    ((g.coversOf oldLines before after gs).cover oldLines before₂ after₂).oldFirst =
      ((g.merge gs).cover oldLines (before + before₂) (after + after₂)).oldFirst := by
  rw [cover_oldFirst, cover_oldFirst, Group.first_coversOf, Group.first_merge, cover_oldFirst,
    ← lead_coversOf placed before after before₂, Nat.sub_sub]

theorem cover_coversOf_newFirst :
    ((g.coversOf oldLines before after gs).cover oldLines before₂ after₂).newFirst =
      ((g.merge gs).cover oldLines (before + before₂) (after + after₂)).newFirst := by
  rw [cover_newFirst, cover_newFirst, Group.first_coversOf, Group.first_merge, cover_newFirst,
    ← lead_coversOf placed before after before₂]
  omega

theorem cover_coversOf_body (clear : (g :: gs).IsChain (Clear oldLines before after)) :
    ((g.coversOf oldLines before after gs).cover oldLines before₂ after₂).body =
      ((g.merge gs).cover oldLines (before + before₂) (after + after₂)).body := by
  have hpos := ((g.coversOf oldLines before after gs).cover oldLines before₂ after₂).oldFirst_pos
  have hend := (g.merge gs).last.oldEnd_pos
  have hlt := lead_lt_oldFirst oldLines.length before₂ (g.cover oldLines before after)
  have hfront : (g.cover oldLines before after).oldFirst =
      ((g.coversOf oldLines before after gs).cover oldLines before₂ after₂).oldFirst +
        (g.cover oldLines before after).lead oldLines.length before₂ := by
    rw [cover_oldFirst oldLines before₂ after₂, Group.first_coversOf, Nat.sub_add_cancel hlt.le]
  have hjoined : joinedBody oldLines (g.coversOf oldLines before after gs).first
    (g.coversOf oldLines before after gs).rest = _ := joinedBody_coversOf clear
  rw [cover_body, cover_body, hjoined, hfront, ← cover_coversOf_oldFirst placed,
    last_coversOf_oldEnd before after placed, Group.first_coversOf, Group.first_merge,
    ← lead_coversOf placed before after before₂, ← trail_coversOf placed before after after₂,
    ← contextFrom_append oldLines hend, Nat.add_comm (g.first.lead oldLines.length before),
    ← contextFrom_append oldLines hpos]
  simp only [List.append_assoc]

variable {posCovers : Nat} {shiftCovers : Int}
  (placedCovers : PlacedFrom oldLines.length posCovers shiftCovers
    (g.coversOf oldLines before after gs).hunks)

include placedCovers

theorem cover_coversOf_oldCount :
    ((g.coversOf oldLines before after gs).cover oldLines before₂ after₂).oldCount =
      ((g.merge gs).cover oldLines (before + before₂) (after + after₂)).oldCount := by
  have hend : ((g.coversOf oldLines before after gs).cover oldLines before₂ after₂).oldEnd =
      ((g.merge gs).cover oldLines (before + before₂) (after + after₂)).oldEnd := by
    rw [cover_oldEnd placedCovers, cover_oldEnd placed, last_coversOf_oldEnd before after placed,
      Nat.add_assoc, trail_coversOf placed before after after₂]
  rwa [oldEnd, oldEnd, cover_coversOf_oldFirst placed, Nat.add_left_cancel_iff] at hend

theorem cover_coversOf_newCount :
    ((g.coversOf oldLines before after gs).cover oldLines before₂ after₂).newCount =
      ((g.merge gs).cover oldLines (before + before₂) (after + after₂)).newCount := by
  have hshift : ((g.coversOf oldLines before after gs).cover oldLines before₂ after₂).shift =
      ((g.merge gs).cover oldLines (before + before₂) (after + after₂)).shift := by
    rw [Group.cover, coverGroup_shift, Group.cover, coverGroup_shift]
    exact shiftOf_covers oldLines before after (g :: gs)
  rw [Hunk.shift, Hunk.shift, cover_coversOf_oldCount placed placedCovers] at hshift
  omega

theorem cover_coversOf (clear : (g :: gs).IsChain (Clear oldLines before after)) :
    (g.coversOf oldLines before after gs).cover oldLines before₂ after₂ =
      (g.merge gs).cover oldLines (before + before₂) (after + after₂) := by
  by_cases h : (g.merge gs).Untouched oldLines.length (before + before₂) (after + after₂)
  · obtain ⟨hfirst, hsecond⟩ := (untouched_merge_iff placed).mp h
    rw [cover_of_untouched h, cover_of_untouched hsecond]
    exact cover_of_untouched hfirst
  -- two rebuilt hunks are equal when their numbers, comments and bodies are
  · refine (cover_coversOf_rebuilt placed h).ext (cover_rebuilt h) (cover_coversOf_oldFirst placed)
      (cover_coversOf_oldCount placed placedCovers) (cover_coversOf_newFirst placed)
      (cover_coversOf_newCount placed placedCovers) ?_ (cover_coversOf_body placed clear)
    rw [cover_comment, cover_comment, Group.first_coversOf, cover_comment]
    rfl

end CoverOfCovers

theorem covers_blocks {blocks : List (List Group)} {posCovers : Nat} {shiftCovers : Int}
    (placed : PlacedFrom oldLines.length pos shift (blocks.flatten.flatMap Group.hunks))
    (placedCovers : PlacedFrom oldLines.length posCovers shiftCovers
      (blocks.flatten.map (Group.cover oldLines before after)))
    (clear : blocks.flatten.IsChain (Clear oldLines before after)) :
    covers oldLines before₂ after₂ (blocks.map (·.map (Group.cover oldLines before after))) =
      covers oldLines (before + before₂) (after + after₂)
        (blocks.map (·.flatMap Group.hunks)) := by
  induction blocks generalizing pos shift posCovers shiftCovers with
  | nil => rfl
  | cons block blocks ih =>
    rw [List.flatten_cons, List.flatMap_append] at placed
    rw [List.flatten_cons, List.map_append] at placedCovers
    rw [List.flatten_cons] at clear
    have hblocks := ih placed.behind placedCovers.behind clear.right_of_append
    cases block with
    | nil => exact hblocks
    | cons g gs =>
      have hcover : (g.coversOf oldLines before after gs).cover oldLines before₂ after₂ =
          (g.merge gs).cover oldLines (before + before₂) (after + after₂) :=
        cover_coversOf placed.front placedCovers.front clear.left_of_append
      exact congrArg₂ List.cons hcover hblocks

end Clear

section Widen

variable {oldLines : List Text} {hunks : List Hunk} {gs : List Group}
  {length before after before₂ after₂ : Nat}

theorem lead_mono (length before before₂ : Nat) (h : Hunk) :
    h.lead length before ≤ h.lead length (before + before₂) := by
  simp only [lead]
  split <;> omega

theorem trail_mono (length after after₂ : Nat) (h : Hunk) :
    h.trail length after ≤ h.trail length (after + after₂) := by
  simp only [trail]
  omega

theorem meets_mono {prev next : Hunk} (h : meets length before after prev next = true) :
    meets length (before + before₂) (after + after₂) prev next = true := by
  have hlead := lead_mono length before before₂ next
  have htrail := trail_mono length after after₂ prev
  simp only [meets, Bool.and_eq_true, decide_eq_true_eq] at *
  omega

/-- The covers of groups meet as the groups do in one step of the sum. -/
theorem groups_covers (clear : gs.IsChain (Clear oldLines before after)) :
    groups oldLines.length before₂ after₂ (gs.map (Group.cover oldLines before after)) =
      (gs.splitBy (Group.joins oldLines.length (before + before₂) (after + after₂))).map
        (·.map (Group.cover oldLines before after)) := by
  have hhead : ∀ g : Group, [g.cover oldLines before after].head? =
    some (g.cover oldLines before after) := fun _ => rfl
  have hagree := clear.imp fun g h (hclear : Clear oldLines before after g h) =>
    (hclear.meets_cover : meets oldLines.length before₂ after₂ _ _ = _)
  have hsplit := splitBy_flatMap hhead (fun _ => rfl) (fun _ _ => List.isChain_singleton _) hagree
  simp only [← List.map_eq_flatMap] at hsplit
  exact hsplit

section Grouped

variable (hgs : gs.map Group.hunks = groups oldLines.length before after hunks)

include hgs

theorem flatMap_hunks : gs.flatMap Group.hunks = hunks := by
  rw [List.flatMap_def, hgs, flatten_groups]

theorem groups_clear (placed : Placed oldLines.length hunks) :
    gs.IsChain (Clear oldLines before after) := by
  have hapart : (groups oldLines.length before after hunks).IsChain _ := groups_apart _ _
  rw [← hgs, List.isChain_map] at hapart
  rw [placed_iff, ← flatMap_hunks hgs] at placed
  exact isChain_clear placed (hapart.imp fun g h ⟨_, _, hgh⟩ => hgh)

theorem widen_eq_map_cover (hcontext : ¬(before = 0 ∧ after = 0)) :
    widen oldLines before after hunks = gs.map (Group.cover oldLines before after) := by
  rw [widen_eq hcontext, ← hgs, Group.covers_map_hunks]

theorem groups_add (before₂ after₂ : Nat) :
    groups oldLines.length (before + before₂) (after + after₂) hunks =
      (gs.splitBy (Group.joins oldLines.length (before + before₂) (after + after₂))).map
        (·.flatMap Group.hunks) := by
  have hinner : ∀ g ∈ gs, g.hunks.IsChain fun prev next =>
      meets oldLines.length (before + before₂) (after + after₂) prev next = true := by
    intro g hg
    have hmem : g.hunks ∈ groups oldLines.length before after hunks := by
      rw [← hgs]
      exact List.mem_map_of_mem hg
    exact (List.isChain_of_mem_splitBy hmem).imp fun _ _ => meets_mono
  rw [groups, ← flatMap_hunks hgs]
  exact splitBy_flatMap Group.head?_hunks Group.getLast?_hunks hinner
    (List.isChain_iff_forall_rel_of_append_cons_cons.mpr fun _ _ _ _ _ => rfl)

end Grouped

/-- Widening twice widens by the sums. -/
theorem widen_adds_up (placed : Placed oldLines.length hunks) (before after before₂ after₂ : Nat) :
    widen oldLines before₂ after₂ (widen oldLines before after hunks) =
      widen oldLines (before + before₂) (after + after₂) hunks := by
  by_cases hfirst : before = 0 ∧ after = 0
  · obtain ⟨rfl, rfl⟩ := hfirst
    rw [widen_zero, Nat.zero_add, Nat.zero_add]
  by_cases hsecond : before₂ = 0 ∧ after₂ = 0
  · obtain ⟨rfl, rfl⟩ := hsecond
    rw [widen_zero, Nat.add_zero, Nat.add_zero]
  have hsum : ¬(before + before₂ = 0 ∧ after + after₂ = 0) := by omega
  -- from here on both sides are lists of covers, of the same blocks of groups of the first step
  have hne : [] ∉ groups oldLines.length before after hunks := nil_notMem_groups _ _
  obtain ⟨gs, hgs⟩ := Group.exists_map_hunks hne
  have hclear := groups_clear hgs placed
  have hcovers := (widen_placed before after placed).1
  rw [placed_iff, widen_eq_map_cover hgs hfirst] at hcovers
  rw [placed_iff, ← flatMap_hunks hgs] at placed
  rw [widen_eq_map_cover hgs hfirst, widen_eq hsecond, widen_eq hsum, groups_add hgs,
    groups_covers hclear]
  rw [← List.flatten_splitBy (Group.joins oldLines.length (before + before₂) (after + after₂)) gs]
    at hclear hcovers placed
  exact covers_blocks placed hcovers hclear

/-- The first step joins the insertion and the deletion, and the second joins their cover and the
change, as a single step does with all three. -/
theorem widen_adds_up_of_sample :
    Placed Sample.oldLines.length Sample.hunks ∧
      (widen Sample.oldLines 1 1 Sample.hunks).length = 2 ∧
      (widen Sample.oldLines 3 2 Sample.hunks).length = 1 ∧
      widen Sample.oldLines 2 1 (widen Sample.oldLines 1 1 Sample.hunks) =
        widen Sample.oldLines 3 2 Sample.hunks :=
  have placed : Placed Sample.oldLines.length Sample.hunks := by decide
  ⟨placed, by decide, by decide, widen_adds_up placed 1 1 2 1⟩

end Widen

end Hunk
end DiffBudget
