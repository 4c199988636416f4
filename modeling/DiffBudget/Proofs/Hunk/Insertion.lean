import DiffBudget.Proofs.Hunk.Widening

/-!
# What widening inserts

Whatever the headers of hunks say, widening puts the hunks into groups and inserts old lines as
context: in front of a group, between its members and behind it. It inserts nothing else, leaves
nothing out, and raises both counts by the number of inserted lines. Every range of old lines that
is taken lies inside the file, and its length is the number that was computed for it.
-/
namespace DiffBudget.Hunk

def slice? (ls : List Text) (lo hi : Nat) : Option (List Text) :=
  if lo ≤ hi ∧ hi ≤ ls.length then some ((ls.drop lo).take (hi - lo)) else none

/-- The texts are the old lines numbered `first` and up, `last` left out. They are either none or a
slice inside the file. -/
def Taken (oldLines : List Text) (first last : Nat) (ts : List Text) : Prop :=
  first = last ∧ ts = [] ∨
    1 ≤ first ∧ first < last ∧ slice? oldLines (first - 1) (last - 1) = some ts

theorem Taken.length {oldLines ts : List Text} {first last : Nat}
    (h : Taken oldLines first last ts) : ts.length = last - first := by
  obtain ⟨rfl, rfl⟩ | ⟨hfirst, hlt, hslice⟩ := h
  · simp
  · simp only [slice?, Option.ite_none_right_eq_some, Option.some.injEq] at hslice
    obtain ⟨hrange, rfl⟩ := hslice
    simp only [List.length_take, List.length_drop]
    omega

theorem taken_cut {oldLines : List Text} {first last : Nat} (hfirst : 1 ≤ first)
    (hle : first ≤ last) (hlast : first < last → last ≤ oldLines.length + 1) :
    Taken oldLines first last (cut oldLines first last) := by
  rcases Nat.eq_or_lt_of_le hle with rfl | hlt
  · exact .inl ⟨rfl, cut_self oldLines first⟩
  · have hin := hlast hlt
    have hrange : first - 1 ≤ last - 1 ∧ last - 1 ≤ oldLines.length := by omega
    have hnumber : last - 1 - (first - 1) = last - first := by omega
    refine .inr ⟨hfirst, hlt, ?_⟩
    rw [slice?, if_pos hrange, hnumber]
    rfl

/-- The bodies of neighbours in their order, with the old lines between two of them as context, and
all the lines put between them. -/
inductive Joined (oldLines : List Text) : List Hunk → List BodyLine → List Text → Prop
  | last (h : Hunk) : Joined oldLines [h] h.body []
  | next {h n : Hunk} {rest : List Hunk} {gap inner : List Text} {body : List BodyLine}
      (taken : Taken oldLines h.oldEnd n.oldFirst gap)
      (joined : Joined oldLines (n :: rest) body inner) :
      Joined oldLines (h :: n :: rest) (h.body ++ gap.map (⟨.context, ·⟩) ++ body) (gap ++ inner)

structure Gain where
  lead : List Text
  inner : List Text
  trail : List Text

def Gain.size (g : Gain) : Nat := g.lead.length + g.inner.length + g.trail.length

/-- The hunk is made of the group and of what it gains. Fewer lines than asked for are taken in
front only at the start of the file or beyond its end, and behind only at its end. -/
structure IsCover (oldLines : List Text) (before after : Nat) (first : Hunk) (rest : List Hunk)
    (gain : Gain) (c : Hunk) : Prop where
  lead : Taken oldLines (first.oldFirst - gain.lead.length) first.oldFirst gain.lead
  lead_le : gain.lead.length ≤ before
  lead_full : gain.lead.length < before →
    gain.lead.length = first.oldFirst - 1 ∨ oldLines.length + 1 < first.oldFirst
  trail : Taken oldLines (lastOf first rest).oldEnd
    ((lastOf first rest).oldEnd + gain.trail.length) gain.trail
  trail_le : gain.trail.length ≤ after
  trail_full : gain.trail.length < after →
    oldLines.length + 1 ≤ (lastOf first rest).oldEnd + gain.trail.length
  body : ∃ joined, Joined oldLines (first :: rest) joined gain.inner ∧
    c.body = gain.lead.map (⟨.context, ·⟩) ++ joined ++ gain.trail.map (⟨.context, ·⟩)
  oldCount : c.oldCount = gain.size + sumOf (·.oldCount) (first :: rest)
  newCount : c.newCount = gain.size + sumOf (·.newCount) (first :: rest)

variable {oldLines : List Text} {before after : Nat}

theorem order_of_meets {length : Nat} {prev next : Hunk}
    (h : meets length before after prev next = true) :
    prev.oldEnd ≤ next.oldFirst ∧ next.oldFirst ≤ length + 1 := by
  simp only [meets, Bool.and_eq_true, decide_eq_true_eq] at h
  omega

theorem joined_joinedBody {first : Hunk} {rest : List Hunk}
    (hmeets : (first :: rest).IsChain fun prev next =>
      meets oldLines.length before after prev next = true) :
    ∃ inner, Joined oldLines (first :: rest) (joinedBody oldLines first rest) inner ∧
      inner.length = gapTotal oldLines first rest := by
  induction rest generalizing first with
  | nil => exact ⟨[], .last first, rfl⟩
  | cons next rest ih =>
    obtain ⟨hmeet, hrest⟩ := List.isChain_cons_cons.mp hmeets
    obtain ⟨inner, hjoined, hinner⟩ := ih hrest
    obtain ⟨horder, hin⟩ := order_of_meets hmeet
    have htaken := taken_cut first.oldEnd_pos horder fun _ => hin
    refine ⟨cut oldLines first.oldEnd next.oldFirst ++ inner, ?_, ?_⟩
    · rw [joinedBody, gap_eq horder]
      exact .next htaken hjoined
    · rw [List.length_append, hinner, gapTotal, gap_eq horder, List.length_map]

theorem taken_lead (oldLines : List Text) (before : Nat) (h : Hunk) :
    Taken oldLines (h.oldFirst - h.lead oldLines.length before) h.oldFirst
      (cut oldLines (h.oldFirst - h.lead oldLines.length before) h.oldFirst) := by
  have hlt := lead_lt_oldFirst oldLines.length before h
  refine taken_cut (by omega) (Nat.sub_le _ _) fun hsome => ?_
  -- a hunk that begins past the end of the file gains no line in front
  by_contra hout
  have hnone : h.lead oldLines.length before = 0 := if_neg (by omega)
  omega

theorem taken_trail (oldLines : List Text) (after : Nat) (h : Hunk) :
    Taken oldLines h.oldEnd (h.oldEnd + h.trail oldLines.length after)
      (cut oldLines h.oldEnd (h.oldEnd + h.trail oldLines.length after)) := by
  refine taken_cut h.oldEnd_pos (Nat.le_add_right _ _) fun hsome => ?_
  rw [trail] at hsome ⊢
  omega

theorem coverGroup_isCover {first : Hunk} {rest : List Hunk}
    (hmeets : (first :: rest).IsChain fun prev next =>
      meets oldLines.length before after prev next = true) :
    ∃ gain, IsCover oldLines before after first rest gain
      (coverGroup oldLines before after first rest) := by
  obtain ⟨inner, hjoined, hinner⟩ := joined_joinedBody hmeets
  have hlead := taken_lead oldLines before first
  have htrail := taken_trail oldLines after (lastOf first rest)
  have hlt := lead_lt_oldFirst oldLines.length before first
  have hleadLength := hlead.length
  have htrailLength := htrail.length
  rw [Nat.sub_sub_self hlt.le] at hleadLength
  rw [Nat.add_sub_cancel_left] at htrailLength
  refine ⟨⟨cut oldLines (first.oldFirst - first.lead oldLines.length before) first.oldFirst, inner,
    cut oldLines (lastOf first rest).oldEnd
      ((lastOf first rest).oldEnd + (lastOf first rest).trail oldLines.length after)⟩, ?_⟩
  have hgained : gained oldLines before after first rest =
      first.lead oldLines.length before + inner.length +
        (lastOf first rest).trail oldLines.length after := by
    rw [gained, hinner]
  constructor
  · rwa [hleadLength]
  · rw [hleadLength]
    exact lead_le oldLines.length before first
  · rw [hleadLength, lead]
    split <;> omega
  · rwa [htrailLength]
  · rw [htrailLength]
    exact trail_le oldLines.length after _
  · rw [htrailLength, trail]
    omega
  · refine ⟨_, hjoined, ?_⟩
    rw [coverGroup_body, contextFrom_eq, contextFrom_eq, Nat.sub_add_cancel hlt.le]
  · rw [coverGroup_oldCount, hgained, Gain.size, hleadLength, htrailLength]
  · rw [coverGroup_newCount, hgained, Gain.size, hleadLength, htrailLength]

theorem isCover_self (oldLines : List Text) (h : Hunk) :
    IsCover oldLines 0 0 h [] ⟨[], [], []⟩ h where
  lead := .inl ⟨rfl, rfl⟩
  lead_le := Nat.le_refl 0
  lead_full := fun hlt => absurd hlt (Nat.not_lt_zero _)
  trail := .inl ⟨rfl, rfl⟩
  trail_le := Nat.le_refl 0
  trail_full := fun hlt => absurd hlt (Nat.not_lt_zero _)
  body := ⟨h.body, .last h, by simp⟩
  oldCount := by simp [Gain.size]
  newCount := by simp [Gain.size]

def Covered (oldLines : List Text) (before after : Nat) (g : List Hunk) (c : Hunk) : Prop :=
  ∃ first rest gain, g = first :: rest ∧ IsCover oldLines before after first rest gain c

theorem covers_covered {gs : List (List Hunk)} (hne : [] ∉ gs)
    (hmeets : ∀ g ∈ gs, g.IsChain fun prev next =>
      meets oldLines.length before after prev next = true) :
    List.Forall₂ (Covered oldLines before after) gs (covers oldLines before after gs) := by
  induction gs with
  | nil => exact .nil
  | cons g gs ih =>
    obtain ⟨hg, hgs⟩ := List.forall_mem_cons.mp hmeets
    cases g with
    | nil => exact absurd List.mem_cons_self hne
    | cons first rest =>
      obtain ⟨gain, hcover⟩ := coverGroup_isCover hg
      rw [covers_cons]
      exact .cons ⟨first, rest, gain, rfl, hcover⟩
        (ih (fun hmem => hne (List.mem_cons_of_mem _ hmem)) hgs)

/-- Widening covers groups of neighbours that make up the hunks, and changes nothing where no
context is asked for. -/
theorem widen_inserts_exactly (oldLines : List Text) (before after : Nat) (hunks : List Hunk) :
    (∃ gs : List (List Hunk), gs.flatten = hunks ∧
      List.Forall₂ (Covered oldLines before after) gs (widen oldLines before after hunks)) ∧
    widen oldLines 0 0 hunks = hunks := by
  refine ⟨?_, widen_zero oldLines hunks⟩
  by_cases hcontext : before = 0 ∧ after = 0
  · obtain ⟨rfl, rfl⟩ := hcontext
    refine ⟨hunks.map fun h => [h], ?_, ?_⟩
    · rw [← List.flatMap_def, List.flatMap_singleton']
    · rw [widen_zero, List.forall₂_map_left_iff, List.forall₂_same]
      exact fun h _ => ⟨h, [], _, rfl, isCover_self oldLines h⟩
  · refine ⟨groups oldLines.length before after hunks, flatten_groups _ _ _ _, ?_⟩
    rw [widen_eq hcontext]
    exact covers_covered (nil_notMem_groups _ _) fun g => List.isChain_of_mem_splitBy

-- a hunk beyond the end of the file gains nothing
example :
    widen [['a'], ['b']] 3 3 [⟨7, 1, 7, 1, [], [⟨.removed, ['x']⟩], none⟩] =
      [⟨7, 1, 7, 1, [], [⟨.removed, ['x']⟩], none⟩] := by
  decide

end DiffBudget.Hunk
