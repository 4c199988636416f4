import DiffBudget.Proofs.Hunk.Replay
import Mathlib.Data.List.SplitBy

/-!
# Widening keeps the meaning of hunks

The hunk that covers a group begins `lead` lines before the group and ends `trail` lines behind
it; what it adds to the group is unchanged on both sides. Two groups that do not meet keep their
order when they are covered. So widened hunks are well formed again, and replaying them gives the
lines that replaying the hunks gave.
-/
namespace DiffBudget.Hunk

section CoverGroup

variable (oldLines : List Text) (before after : Nat) (first : Hunk) (rest : List Hunk)

def gained : Nat :=
  first.lead oldLines.length before + gapTotal oldLines first rest +
    (lastOf first rest).trail oldLines.length after

theorem coverGroup_cases :
    (rest = [] ∧ first.lead oldLines.length before = 0 ∧ first.trail oldLines.length after = 0 ∧
      coverGroup oldLines before after first rest = first) ∨
    coverGroup oldLines before after first rest =
      { oldStart := startOf (max (first.oldFirst - first.lead oldLines.length before) 1)
          (gained oldLines before after first rest + sumOf (·.oldCount) (first :: rest))
        oldCount := gained oldLines before after first rest + sumOf (·.oldCount) (first :: rest)
        newStart := startOf (max (first.newFirst - first.lead oldLines.length before) 1)
          (gained oldLines before after first rest + sumOf (·.newCount) (first :: rest))
        newCount := gained oldLines before after first rest + sumOf (·.newCount) (first :: rest)
        comment := first.comment
        body := contextFrom oldLines (first.oldFirst - first.lead oldLines.length before)
            (first.lead oldLines.length before) ++
          joinedBody oldLines first rest ++
          contextFrom oldLines (lastOf first rest).oldEnd
            ((lastOf first rest).trail oldLines.length after) } := by
  by_cases h : (rest.isEmpty && first.lead oldLines.length before == 0 &&
      (lastOf first rest).trail oldLines.length after == 0) = true
  · left
    have hc : coverGroup oldLines before after first rest = first := by
      simp only [coverGroup, h, if_true]
    simp only [Bool.and_eq_true, List.isEmpty_iff, beq_iff_eq] at h
    obtain ⟨⟨rfl, hlead⟩, htrail⟩ := h
    exact ⟨rfl, hlead, htrail, hc⟩
  · right
    simp only [coverGroup, h, Bool.false_eq_true, if_false, gained]

theorem coverGroup_oldFirst :
    (coverGroup oldLines before after first rest).oldFirst =
      first.oldFirst - first.lead oldLines.length before := by
  have hlead := lead_lt_oldFirst oldLines.length before first
  rcases coverGroup_cases oldLines before after first rest with ⟨-, h, -, hc⟩ | hc
  · rw [hc, h, Nat.sub_zero]
  · rw [hc, oldFirst, firstLine_startOf (Nat.le_max_right _ _)]
    omega

theorem coverGroup_newFirst :
    (coverGroup oldLines before after first rest).newFirst =
      max (first.newFirst - first.lead oldLines.length before) 1 := by
  rcases coverGroup_cases oldLines before after first rest with ⟨-, h, -, hc⟩ | hc
  · rw [hc, h, Nat.sub_zero, Nat.max_eq_left first.newFirst_pos]
  · rw [hc, newFirst, firstLine_startOf (Nat.le_max_right _ _)]

theorem coverGroup_oldCount :
    (coverGroup oldLines before after first rest).oldCount =
      gained oldLines before after first rest + sumOf (·.oldCount) (first :: rest) := by
  rcases coverGroup_cases oldLines before after first rest with ⟨rfl, hlead, htrail, hc⟩ | hc
  · simp [hc, gained, gapTotal, hlead, htrail]
  · rw [hc]

theorem coverGroup_newCount :
    (coverGroup oldLines before after first rest).newCount =
      gained oldLines before after first rest + sumOf (·.newCount) (first :: rest) := by
  rcases coverGroup_cases oldLines before after first rest with ⟨rfl, hlead, htrail, hc⟩ | hc
  · simp [hc, gained, gapTotal, hlead, htrail]
  · rw [hc]

theorem coverGroup_body :
    (coverGroup oldLines before after first rest).body =
      contextFrom oldLines (first.oldFirst - first.lead oldLines.length before)
          (first.lead oldLines.length before) ++
        joinedBody oldLines first rest ++
        contextFrom oldLines (lastOf first rest).oldEnd
          ((lastOf first rest).trail oldLines.length after) := by
  rcases coverGroup_cases oldLines before after first rest with ⟨rfl, hlead, htrail, hc⟩ | hc
  · simp [hc, joinedBody, contextFrom, hlead, htrail]
  · rw [hc]

theorem coverGroup_started {first : Hunk} (h : first.Started) :
    (coverGroup oldLines before after first rest).Started := by
  rcases coverGroup_cases oldLines before after first rest with ⟨-, -, -, hc⟩ | hc
  · rwa [hc]
  · rw [hc]
    constructor <;> intro hcount <;> simp only [startOf, if_neg hcount] <;>
      exact Nat.le_max_right _ _

end CoverGroup

section Group

variable {oldLines : List Text} {pos : Nat} {shift : Int} {first : Hunk} {rest tail : List Hunk}

theorem gap_eq {prev next : Hunk} (h : prev.oldEnd ≤ next.oldFirst) :
    gap oldLines prev next = (cut oldLines prev.oldEnd next.oldFirst).map (⟨.context, ·⟩) := by
  rw [gap, contextFrom_eq, Nat.add_sub_cancel' h]

theorem length_gap {prev next : Hunk} (h : prev.oldEnd ≤ next.oldFirst)
    (hnext : next.oldFirst ≤ oldLines.length + 1) :
    (gap oldLines prev next).length = next.oldFirst - prev.oldEnd := by
  have hprev := prev.oldFirst_pos
  have hle := prev.oldFirst_le_oldEnd
  rw [gap_eq h, List.length_map, length_cut (by omega) hnext]

theorem oldFirst_add_span (placed : PlacedFrom oldLines.length pos shift (first :: rest)) :
    first.oldFirst + (gapTotal oldLines first rest + sumOf (·.oldCount) (first :: rest)) =
      (lastOf first rest).oldEnd := by
  induction rest generalizing first pos shift with
  | nil => simp [gapTotal, oldEnd]
  | cons next rest ih =>
    obtain ⟨-, -, -, behind⟩ := placed
    have hspan := ih behind
    have horder := behind.2.1
    have hgap : (gap oldLines first next).length = next.oldFirst - first.oldEnd := by
      refine length_gap horder ?_
      have hin := behind.inside next List.mem_cons_self
      have hle := next.oldFirst_le_oldEnd
      omega
    rw [lastOf, List.getLast_cons_cons]
    rw [sumOf_cons] at hspan
    simp only [gapTotal, sumOf_cons, hgap]
    simp only [oldEnd] at horder ⊢
    simp only [lastOf, oldEnd] at hspan
    omega

theorem shiftOf_eq (hs : List Hunk) :
    shiftOf hs = (sumOf (·.newCount) hs : Int) - sumOf (·.oldCount) hs := by
  induction hs with
  | nil => rfl
  | cons h hs ih =>
    rw [shiftOf_cons, ih, sumOf_cons, sumOf_cons, Hunk.shift]
    omega

theorem coverGroup_shift (oldLines : List Text) (before after : Nat) (first : Hunk)
    (rest : List Hunk) :
    (coverGroup oldLines before after first rest).shift = shiftOf (first :: rest) := by
  rw [shiftOf_eq, Hunk.shift, coverGroup_newCount, coverGroup_oldCount]
  omega

theorem coverGroup_oldEnd (before after : Nat)
    (placed : PlacedFrom oldLines.length pos shift (first :: rest)) :
    (coverGroup oldLines before after first rest).oldEnd =
      (lastOf first rest).oldEnd + (lastOf first rest).trail oldLines.length after := by
  have hspan := oldFirst_add_span placed
  have hlead := lead_lt_oldFirst oldLines.length before first
  rw [oldEnd, coverGroup_oldFirst, coverGroup_oldCount, gained]
  omega

theorem oldTexts_joinedBody (placed : PlacedFrom oldLines.length pos shift (first :: rest))
    (shown : ∀ h ∈ first :: rest, h.Shows oldLines) :
    BodyLine.oldTexts (joinedBody oldLines first rest) =
      cut oldLines first.oldFirst (lastOf first rest).oldEnd := by
  have hfirst := shown first List.mem_cons_self
  induction rest generalizing first pos shift with
  | nil => exact hfirst
  | cons next rest ih =>
    obtain ⟨-, -, -, behind⟩ := placed
    have horder := behind.2.1
    have hpos := first.oldFirst_pos
    have hle := first.oldFirst_le_oldEnd
    have hspan := oldFirst_add_span behind
    have hrest := ih behind (fun h hh => shown h (List.mem_cons_of_mem _ hh))
      (shown next (List.mem_cons_of_mem _ List.mem_cons_self))
    simp only [joinedBody, BodyLine.oldTexts_append]
    rw [hfirst, hrest, gap_eq horder, BodyLine.oldTexts_context,
      cut_append_cut oldLines hpos hle horder, cut_append_cut oldLines hpos (by omega) (by omega)]
    rfl

theorem newTexts_joinedBody (placed : PlacedFrom oldLines.length pos shift (first :: rest)) :
    BodyLine.newTexts (joinedBody oldLines first rest) ++
        replayFrom oldLines (lastOf first rest).oldEnd tail =
      BodyLine.newTexts first.body ++ replayFrom oldLines first.oldEnd (rest ++ tail) := by
  induction rest generalizing first pos shift with
  | nil => rfl
  | cons next rest ih =>
    obtain ⟨-, -, -, behind⟩ := placed
    have hrest := ih behind
    simp only [joinedBody, BodyLine.newTexts_append, List.cons_append, replayFrom,
      List.append_assoc]
    rw [gap_eq behind.2.1, BodyLine.newTexts_context, ← hrest]
    rfl

theorem length_contextFrom (first number : Nat) :
    (contextFrom oldLines first number).length = min number (oldLines.length - (first - 1)) := by
  simp [contextFrom]

theorem length_oldTexts_contextFrom (first number : Nat) :
    (BodyLine.oldTexts (contextFrom oldLines first number)).length =
      (contextFrom oldLines first number).length := by
  simp [contextFrom_eq, BodyLine.oldTexts_context]

theorem length_newTexts_contextFrom (first number : Nat) :
    (BodyLine.newTexts (contextFrom oldLines first number)).length =
      (contextFrom oldLines first number).length := by
  simp [contextFrom_eq, BodyLine.newTexts_context]

variable (oldLines) in
theorem joinedBody_counted (counted : ∀ h ∈ first :: rest, h.Counted) :
    (BodyLine.oldTexts (joinedBody oldLines first rest)).length =
        gapTotal oldLines first rest + sumOf (·.oldCount) (first :: rest) ∧
      (BodyLine.newTexts (joinedBody oldLines first rest)).length =
        gapTotal oldLines first rest + sumOf (·.newCount) (first :: rest) := by
  have hfirst := counted first List.mem_cons_self
  induction rest generalizing first with
  | nil => simpa [joinedBody, gapTotal, Counted, eq_comm] using hfirst
  | cons next rest ih =>
    obtain ⟨hold, hnew⟩ := ih (fun h hh => counted h (List.mem_cons_of_mem _ hh))
      (counted next (List.mem_cons_of_mem _ List.mem_cons_self))
    simp only [joinedBody, BodyLine.oldTexts_append, BodyLine.newTexts_append, List.length_append,
      gap, length_oldTexts_contextFrom, length_newTexts_contextFrom, hold, hnew, ← hfirst.1,
      ← hfirst.2, gapTotal, sumOf_cons]
    omega

theorem coverGroup_counted (before after : Nat) (counted : ∀ h ∈ first :: rest, h.Counted) :
    (coverGroup oldLines before after first rest).Counted := by
  have hjoined := joinedBody_counted oldLines counted
  have hlead : (contextFrom oldLines (first.oldFirst - first.lead oldLines.length before)
      (first.lead oldLines.length before)).length = first.lead oldLines.length before := by
    rw [length_contextFrom]
    unfold lead
    split <;> omega
  have htrail : (contextFrom oldLines (lastOf first rest).oldEnd
      ((lastOf first rest).trail oldLines.length after)).length =
        (lastOf first rest).trail oldLines.length after := by
    have hend := (lastOf first rest).oldEnd_pos
    rw [length_contextFrom, trail]
    omega
  rw [Counted, coverGroup_oldCount, coverGroup_newCount, coverGroup_body, gained]
  simp only [BodyLine.oldTexts_append, BodyLine.newTexts_append, List.length_append,
    length_oldTexts_contextFrom, length_newTexts_contextFrom, hlead, htrail, hjoined.1, hjoined.2]
  omega

theorem coverGroup_shows (before after : Nat)
    (placed : PlacedFrom oldLines.length pos shift (first :: rest))
    (shown : ∀ h ∈ first :: rest, h.Shows oldLines) :
    (coverGroup oldLines before after first rest).Shows oldLines := by
  have hspan := oldFirst_add_span placed
  have hlead := lead_lt_oldFirst oldLines.length before first
  have hfront : first.oldFirst - first.lead oldLines.length before +
      first.lead oldLines.length before = first.oldFirst := by omega
  rw [Shows, coverGroup_body, coverGroup_oldFirst, coverGroup_oldEnd before after placed]
  simp only [BodyLine.oldTexts_append, oldTexts_contextFrom, oldTexts_joinedBody placed shown,
    hfront]
  rw [cut_append_cut oldLines (by omega) (by omega) (by omega),
    cut_append_cut oldLines (by omega) (by omega) (by omega)]

theorem replayFrom_coverGroup (before after : Nat) (hpos : 1 ≤ pos)
    (hlead : pos ≤ first.oldFirst - first.lead oldLines.length before)
    (placed : PlacedFrom oldLines.length pos shift (first :: rest))
    (htail : ∀ h ∈ tail.head?, (coverGroup oldLines before after first rest).oldEnd ≤ h.oldFirst) :
    cut oldLines pos (coverGroup oldLines before after first rest).oldFirst ++
        BodyLine.newTexts (coverGroup oldLines before after first rest).body ++
        replayFrom oldLines (coverGroup oldLines before after first rest).oldEnd tail =
      replayFrom oldLines pos (first :: rest ++ tail) := by
  have hlt := lead_lt_oldFirst oldLines.length before first
  have hfront : first.oldFirst - first.lead oldLines.length before +
      first.lead oldLines.length before = first.oldFirst := by omega
  have hback := replayFrom_advance oldLines (lastOf first rest).oldEnd_pos (Nat.le_add_right _ _)
    (by simpa only [coverGroup_oldEnd before after placed] using htail)
  rw [coverGroup_oldFirst, coverGroup_oldEnd before after placed, coverGroup_body]
  simp only [BodyLine.newTexts_append, newTexts_contextFrom, hfront, List.append_assoc, hback,
    newTexts_joinedBody placed]
  rw [← List.append_assoc, cut_append_cut oldLines hpos hlead (by omega), ← List.append_assoc]
  rfl

end Group
section Covers

variable {oldLines : List Text} {before after pos : Nat} {shift : Int}

def covers (oldLines : List Text) (before after : Nat) (gs : List (List Hunk)) : List Hunk :=
  gs.filterMap fun
    | [] => none
    | first :: rest => some (coverGroup oldLines before after first rest)

theorem covers_cons (first : Hunk) (rest : List Hunk) (gs : List (List Hunk)) :
    covers oldLines before after ((first :: rest) :: gs) =
      coverGroup oldLines before after first rest :: covers oldLines before after gs :=
  rfl

theorem mem_covers {gs : List (List Hunk)} {c : Hunk} :
    c ∈ covers oldLines before after gs ↔
      ∃ first rest, first :: rest ∈ gs ∧ c = coverGroup oldLines before after first rest := by
  simp only [covers, List.mem_filterMap]
  constructor
  · rintro ⟨g, hg, hc⟩
    cases g with
    | nil => simp at hc
    | cons first rest => exact ⟨first, rest, hg, (Option.some.inj hc).symm⟩
  · rintro ⟨first, rest, hg, rfl⟩
    exact ⟨_, hg, rfl⟩

theorem widen_eq (hcontext : ¬(before = 0 ∧ after = 0)) (hunks : List Hunk) :
    widen oldLines before after hunks =
      covers oldLines before after (groups oldLines.length before after hunks) := by
  rw [widen, if_neg hcontext]
  rfl

theorem flatten_groups (before after length : Nat) (hunks : List Hunk) :
    (groups length before after hunks).flatten = hunks :=
  List.flatten_splitBy _ _

theorem nil_notMem_groups (length : Nat) (hunks : List Hunk) :
    [] ∉ groups length before after hunks :=
  List.nil_notMem_splitBy _ _

theorem groups_apart (length : Nat) (hunks : List Hunk) :
    (groups length before after hunks).IsChain fun a b =>
      ∃ ha hb, meets length before after (a.getLast ha) (b.head hb) = false :=
  List.isChain_getLast_head_splitBy _ _

theorem windows_apart {prev next : Hunk} {length : Nat}
    (h : meets length before after prev next = false) (horder : prev.oldEnd ≤ next.oldFirst)
    (hnext : next.oldFirst ≤ length + 1) :
    prev.oldEnd + prev.trail length after ≤ next.oldFirst - next.lead length before := by
  have hpos := prev.oldEnd_pos
  have hin : next.oldFirst - 1 ≤ length := by omega
  simp only [meets, Bool.and_eq_false_iff, decide_eq_false_iff_not] at h
  omega

theorem newEnd_pos {length : Nat} {hs : List Hunk} (placed : PlacedFrom length pos shift hs)
    (hpos : 1 ≤ pos + shift) : 1 ≤ endFrom pos hs + (shift + shiftOf hs) := by
  induction hs generalizing pos shift with
  | nil => simpa [endFrom] using hpos
  | cons h hs ih =>
    obtain ⟨-, -, hnew, behind⟩ := placed
    have hfirst := h.newFirst_pos
    have hend := ih behind (by simp only [Hunk.shift, oldEnd]; omega)
    simpa only [endFrom, shiftOf_cons, add_assoc] using hend

theorem apart_head {first : Hunk} {rest : List Hunk} {gs : List (List Hunk)}
    (hne : [] ∉ gs)
    (hsep : ((first :: rest) :: gs).IsChain fun a b =>
      ∃ ha hb, meets oldLines.length before after (a.getLast ha) (b.head hb) = false) :
    ∀ next ∈ gs.flatten.head?,
      meets oldLines.length before after (lastOf first rest) next = false := by
  intro next hnext
  cases gs with
  | nil => simp at hnext
  | cons g gs =>
    cases g with
    | nil => exact absurd List.mem_cons_self hne
    | cons h t =>
      obtain ⟨_, _, hapart⟩ := (List.isChain_cons_cons.mp hsep).1
      obtain rfl : h = next := by simpa using hnext
      exact hapart

/-- Groups that do not meet may be covered one by one: what is known of the hunks is known of
the covers, and the new lines are the same. -/
theorem covers_placed {gs : List (List Hunk)} (hne : [] ∉ gs)
    (hsep : gs.IsChain fun a b =>
      ∃ ha hb, meets oldLines.length before after (a.getLast ha) (b.head hb) = false)
    (placed : PlacedFrom oldLines.length pos shift gs.flatten)
    (hpos : 1 ≤ pos) (hnew : 1 ≤ pos + shift)
    (hlead : ∀ h ∈ gs.flatten.head?, pos ≤ h.oldFirst - h.lead oldLines.length before) :
    PlacedFrom oldLines.length pos shift (covers oldLines before after gs) ∧
      replayFrom oldLines pos (covers oldLines before after gs) =
        replayFrom oldLines pos gs.flatten ∧
      ((∀ h ∈ gs.flatten, h.Shows oldLines) →
        ∀ c ∈ covers oldLines before after gs, c.Shows oldLines) := by
  induction gs generalizing pos shift with
  | nil => exact ⟨placed, rfl, fun _ c hc => by simp [covers] at hc⟩
  | cons g gs ih =>
    cases g with
    | nil => exact absurd List.mem_cons_self hne
    | cons first rest =>
      have hne' : [] ∉ gs := fun h => hne (List.mem_cons_of_mem _ h)
      have hfirst := hlead first rfl
      have group : PlacedFrom oldLines.length pos shift (first :: rest) := placed.front
      have behind := placed.behind
      rw [endFrom_cons] at behind
      have hend := coverGroup_oldEnd before after group
      have hshift := coverGroup_shift oldLines before after first rest
      -- the next group starts behind the cover of this one
      have apart : ∀ next ∈ gs.flatten.head?,
          (coverGroup oldLines before after first rest).oldEnd ≤
            next.oldFirst - next.lead oldLines.length before := by
        intro next hnext
        have hmem := List.mem_of_head? hnext
        have hin := behind.inside next hmem
        have hle := next.oldFirst_le_oldEnd
        rw [hend]
        refine windows_apart (apart_head hne' hsep next hnext) ?_ (by omega)
        exact behind.le_head next hnext
      have hin : (coverGroup oldLines before after first rest).oldEnd ≤ oldLines.length + 1 := by
        have hle := behind.le
        rw [hend, trail]
        omega
      have hnext := behind.advance hin fun next h =>
        (apart next h).trans (Nat.sub_le _ _)
      have hnewEnd : (1 : Int) ≤ (coverGroup oldLines before after first rest).oldEnd +
          (shift + shiftOf (first :: rest)) := by
        have h := newEnd_pos group hnew
        rw [endFrom_cons] at h
        rw [hend]
        push_cast
        omega
      obtain ⟨hplaced, hreplay, hshows⟩ :=
        ih hne' hsep.tail hnext (coverGroup oldLines before after first rest).oldEnd_pos
          hnewEnd apart
      refine ⟨⟨?_, ?_, ?_, ?_⟩, ?_, ?_⟩
      · exact coverGroup_started oldLines before after rest placed.1
      · rw [coverGroup_oldFirst]
        exact hfirst
      · have haligned := placed.2.2.1
        rw [coverGroup_newFirst, coverGroup_oldFirst]
        omega
      · rw [hshift]
        exact hplaced
      · rw [covers_cons, replayFrom, hreplay]
        exact replayFrom_coverGroup before after hpos hfirst group fun next h =>
          (apart next h).trans (Nat.sub_le _ _)
      · intro shown c hc
        rcases List.mem_cons.mp hc with rfl | hc
        · exact coverGroup_shows before after group fun h hh =>
            shown h (List.mem_append_left _ hh)
        · exact hshows (fun h hh => shown h (List.mem_append_right _ hh)) c hc

end Covers

section Widen

variable {oldLines : List Text} {hunks : List Hunk}

theorem widen_placed (before after : Nat) (placed : Placed oldLines.length hunks) :
    Placed oldLines.length (widen oldLines before after hunks) ∧
      replay oldLines (widen oldLines before after hunks) = replay oldLines hunks ∧
      ((∀ h ∈ hunks, h.Shows oldLines) →
        ∀ c ∈ widen oldLines before after hunks, c.Shows oldLines) := by
  by_cases hcontext : before = 0 ∧ after = 0
  · obtain ⟨rfl, rfl⟩ := hcontext
    rw [widen_zero]
    exact ⟨placed, rfl, id⟩
  · have hfrom : PlacedFrom oldLines.length 1 0
        (groups oldLines.length before after hunks).flatten := by
      rw [flatten_groups]
      exact placed_iff.mp placed
    have hcovers := covers_placed (nil_notMem_groups _ _) (groups_apart _ _) hfrom
      (Nat.le_refl 1) (by omega) fun h _ =>
        Nat.sub_pos_of_lt (lead_lt_oldFirst oldLines.length before h)
    rw [flatten_groups, ← placed_iff] at hcovers
    rw [widen_eq hcontext]
    exact hcovers

theorem widen_counted (before after : Nat) (counted : ∀ h ∈ hunks, h.Counted) :
    ∀ c ∈ widen oldLines before after hunks, c.Counted := by
  by_cases hcontext : before = 0 ∧ after = 0
  · obtain ⟨rfl, rfl⟩ := hcontext
    rwa [widen_zero]
  · rw [widen_eq hcontext]
    intro c hc
    obtain ⟨first, rest, hg, rfl⟩ := mem_covers.mp hc
    refine coverGroup_counted before after fun h hh => counted h ?_
    rw [← flatten_groups before after oldLines.length hunks]
    exact List.mem_flatten_of_mem hg hh

/-- Widening keeps hunks well formed and does not change what replaying them gives. -/
theorem widen_preserves_meaning (wf : WellFormed oldLines hunks) (before after : Nat) :
    WellFormed oldLines (widen oldLines before after hunks) ∧
      replay oldLines (widen oldLines before after hunks) = replay oldLines hunks := by
  obtain ⟨placed, hreplay, hshows⟩ := widen_placed before after wf.toPlaced
  exact ⟨⟨placed, widen_counted before after wf.counted, hshows wf.shown⟩, hreplay⟩

theorem widen_preserves_meaning_of_sample :
    WellFormed Sample.oldLines Sample.hunks ∧
      (widen Sample.oldLines 1 1 Sample.hunks).length = 2 ∧
      WellFormed Sample.oldLines (widen Sample.oldLines 1 1 Sample.hunks) ∧
      replay Sample.oldLines (widen Sample.oldLines 1 1 Sample.hunks) =
        replay Sample.oldLines Sample.hunks :=
  have wf : WellFormed Sample.oldLines Sample.hunks := by decide
  ⟨wf, by decide, widen_preserves_meaning wf 1 1⟩

end Widen

end DiffBudget.Hunk
