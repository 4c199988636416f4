import DiffBudget.Proofs.EditScript.Ends
import DiffBudget.Proofs.Hunk.Replay
import DiffBudget.Proofs.Patch.Printing

/-!
# Rebuilt hunks replay to the new lines

The body of a group's hunk shows what the group covers on either side. The ends of the ranges in
the header come from the first and the last operation, either of which may be a deletion or an
insertion at an end of the script and then has an index that does not say where it stands. No
such index lies outside the sequence, so ranges of the right lengths are the right ones. Hunks
with the right ranges stand where their groups stand, and replaying them gives the new lines.
-/
namespace DiffBudget

namespace BodyLine

theorem oldTexts_map (kind : LineKind) (ts : List Text) :
    oldTexts (ts.map (⟨kind, ·⟩)) = if kind = .added then [] else ts := by
  cases kind <;> induction ts <;> simp_all [oldTexts, inOld]

theorem newTexts_map (kind : LineKind) (ts : List Text) :
    newTexts (ts.map (⟨kind, ·⟩)) = if kind = .removed then [] else ts := by
  cases kind <;> induction ts <;> simp_all [newTexts, inNew]

end BodyLine

namespace EditScript

open Text (lineOf)
open Hunk (cut cut_self cut_append_cut)
open Hunk.Header (rangeStart)

variable {old new : Array Text} {o p q r : Place} {op : EditOp} {ops g : List EditOp}

def shownLines (items : Array Text) : List Text := items.toList.map lineOf

theorem length_shownLines (items : Array Text) : (shownLines items).length = items.size := by
  simp [shownLines]

theorem map_lineOf_itemsAt (items : Array Text) (first count : Nat) :
    (itemsAt items first count).map lineOf =
      cut (shownLines items) (first + 1) (first + count + 1) := by
  simp [itemsAt, cut, shownLines, Nat.add_sub_add_right]

theorem Alike.itemsAt_eq {i j count : Nat} (h : Alike old new i j count) :
    itemsAt old i count = itemsAt new j count := by
  refine List.ext_getElem? fun k => ?_
  simp only [itemsAt, List.getElem?_take, List.getElem?_drop, Array.getElem?_toList]
  split
  · rename_i hk
    exact (h k hk).2
  · rfl

theorem Tidy.texts (h : Tidy old new p op) :
    BodyLine.oldTexts (opBody old new op) =
        cut (shownLines old) (p.old + 1) ((p.after op).old + 1) ∧
      BodyLine.newTexts (opBody old new op) =
        cut (shownLines new) (p.new + 1) ((p.after op).new + 1) := by
  have hkind : ∀ (kind : LineKind) (items : Array Text) (first count : Nat),
      (itemsAt items first count).map (fun e => (⟨kind, lineOf e⟩ : BodyLine)) =
        (cut (shownLines items) (first + 1) (first + count + 1)).map (⟨kind, ·⟩) := by
    intro kind items first count
    rw [← map_lineOf_itemsAt, List.map_map]
    rfl
  obtain ⟨n, -, halike, rfl⟩ | ⟨n, x, -, rfl⟩ | ⟨x, m, -, rfl⟩ | ⟨n, m, rfl⟩ := h.cases
  · have hnew : cut (shownLines old) (p.old + 1) (p.old + n + 1) =
        cut (shownLines new) (p.new + 1) (p.new + n + 1) := by
      rw [← map_lineOf_itemsAt, ← map_lineOf_itemsAt, halike.itemsAt_eq]
    simp only [opBody, EditOp.equal, hkind, BodyLine.oldTexts_map, BodyLine.newTexts_map]
    exact ⟨rfl, hnew⟩
  · simp only [opBody, EditOp.delete, hkind, BodyLine.oldTexts_map, BodyLine.newTexts_map]
    exact ⟨rfl, (cut_self _ _).symm⟩
  · simp only [opBody, EditOp.insert, hkind, BodyLine.oldTexts_map, BodyLine.newTexts_map]
    exact ⟨(cut_self _ _).symm, rfl⟩
  · simp only [opBody, hkind, BodyLine.oldTexts_append, BodyLine.newTexts_append,
      BodyLine.oldTexts_map, BodyLine.newTexts_map]
    exact ⟨List.append_nil _, rfl⟩

theorem Walk.texts (h : Walk (Tidy old new) p ops q) :
    BodyLine.oldTexts (ops.flatMap (opBody old new)) =
        cut (shownLines old) (p.old + 1) (q.old + 1) ∧
      BodyLine.newTexts (ops.flatMap (opBody old new)) =
        cut (shownLines new) (p.new + 1) (q.new + 1) := by
  induction ops generalizing p with
  | nil =>
    obtain rfl := walk_nil.mp h
    exact ⟨(cut_self _ _).symm, (cut_self _ _).symm⟩
  | cons op ops ih =>
    obtain ⟨hold, hnew⟩ := h.1.texts
    obtain ⟨holds, hnews⟩ := ih h.2
    obtain ⟨hleOld, hleNew, -⟩ := h.2.places_le
    rw [List.flatMap_cons, BodyLine.oldTexts_append, BodyLine.newTexts_append, hold, hnew, holds,
      hnews]
    refine ⟨cut_append_cut _ ?_ ?_ ?_, cut_append_cut _ ?_ ?_ ?_⟩ <;>
      simp only [Place.after] at hleOld hleNew ⊢ <;> omega

/-- The group leads from one place to another in a script of the two sequences, and a change at its
front or back stands at the front or back of the script. -/
structure Framed (old new : Array Text) (p q : Place) (g : List EditOp) : Prop where
  walk : Walk (Tidy old new) p g q
  front : ∀ op ∈ g.head?, op.tag = .equal ∨ p.old = 0 ∧ p.new = 0
  back : ∀ op ∈ g.getLast?, op.tag = .equal ∨ q.old = old.size ∧ q.new = new.size
  oldInside : q.old ≤ old.size
  newInside : q.new ≤ new.size

theorem Tidy.beginsAt (h : Tidy old new p op) (hequal : op.tag = .equal) :
    op.BeginsAt p.old p.new := by
  obtain ⟨n, -, -, rfl⟩ := h.equal hequal
  exact ⟨rfl, rfl⟩

theorem Tidy.endsAt (h : Tidy old new p op) (hequal : op.tag = .equal) :
    op.EndsAt (p.after op).old (p.after op).new := by
  obtain ⟨n, -, -, rfl⟩ := h.equal hequal
  exact ⟨rfl, rfl⟩

section Framed

variable (h : Framed old new p q (op :: ops))

include h

theorem Framed.front_indices :
    (op.oldIndex = p.old ∨ p.old = 0 ∧ op.oldIndex ≤ old.size) ∧
      (op.newIndex = p.new ∨ p.new = 0 ∧ op.newIndex ≤ new.size) := by
  have hfront := h.front op rfl
  obtain ⟨n, -, -, rfl⟩ | ⟨n, x, hx, rfl⟩ | ⟨x, m, hx, rfl⟩ | ⟨n, m, rfl⟩ := h.walk.1.cases
  · exact ⟨.inl rfl, .inl rfl⟩
  · exact ⟨.inl rfl, .inr ⟨(hfront.resolve_left EditTag.noConfusion).2, hx⟩⟩
  · exact ⟨.inr ⟨(hfront.resolve_left EditTag.noConfusion).1, hx⟩, .inl rfl⟩
  · exact ⟨.inl rfl, .inl rfl⟩

theorem Framed.front_moves :
    p.old < q.old ∧ p.new < q.new ∨ p.old = 0 ∧ p.new = 0 := by
  refine (h.front op rfl).imp_left fun hequal => ?_
  obtain ⟨n, hn, -, rfl⟩ := h.walk.1.equal hequal
  have hbehind := h.walk.2.places_le
  simp only [Place.after_equal, Place.skip] at hbehind
  omega

theorem Framed.exists_last : ∃ t last, (op :: ops).getLast? = some last ∧
    (op :: ops).getLast (List.cons_ne_nil _ _) = last ∧ Tidy old new t last ∧
    t.after last = q ∧ p.old ≤ t.old ∧ p.new ≤ t.new := by
  have hwalk := h.walk
  have hsplit := List.dropLast_append_getLast (List.cons_ne_nil op ops)
  rw [← hsplit, walk_append] at hwalk
  obtain ⟨t, hinit, hfits, hend⟩ := hwalk
  obtain ⟨hold, hnew, -⟩ := hinit.places_le
  exact ⟨t, _, List.getLast?_eq_some_getLast _, rfl, hfits, hend, hold, hnew⟩

theorem Framed.back_ends :
    let last := (op :: ops).getLast (List.cons_ne_nil _ _)
    last.oldEnd ≤ q.old ∧ last.newEnd ≤ q.new ∧
      (p.old < q.old ∧ p.new < q.new ∨ q.old = old.size ∧ q.new = new.size) := by
  obtain ⟨t, last, hmem, hlast, hfits, rfl, hold, hnew⟩ := h.exists_last
  have hback := h.back last hmem
  rw [hlast]
  obtain ⟨n, hn, -, rfl⟩ | ⟨n, x, hx, rfl⟩ | ⟨x, m, hx, rfl⟩ | ⟨n, m, rfl⟩ := hfits.cases
  · simp only [EditOp.oldEnd, EditOp.newEnd, EditOp.equal, Place.after]
    omega
  · have hright := hback.resolve_left EditTag.noConfusion
    exact ⟨Nat.le_refl _, hright.2 ▸ hx, .inr hright⟩
  · have hright := hback.resolve_left EditTag.noConfusion
    exact ⟨hright.1 ▸ hx, Nat.le_refl _, .inr hright⟩
  · exact ⟨Nat.le_refl _, Nat.le_refl _, .inr (hback.resolve_left EditTag.noConfusion)⟩

end Framed

theorem firstLine_rangeStart (first last : Nat) :
    Hunk.firstLine (rangeStart first last) (last - first) = first + 1 := by
  unfold Hunk.firstLine rangeStart
  split <;> omega

theorem rangeStart_pos {first last : Nat} (h : last - first ≠ 0) :
    1 ≤ rangeStart first last := by
  rw [rangeStart, if_neg h]
  exact Nat.le_add_left 1 first

/-- The hunk covers the lines between two places on either side, and its body shows them. -/
structure Stands (old new : Array Text) (p q : Place) (h : Hunk) : Prop where
  started : h.Started
  oldFirst : h.oldFirst = p.old + 1
  oldEnd : h.oldEnd = q.old + 1
  newFirst : h.newFirst = p.new + 1
  newEnd : h.newFirst + h.newCount = q.new + 1
  oldTexts : BodyLine.oldTexts h.body = cut (shownLines old) (p.old + 1) (q.old + 1)
  newTexts : BodyLine.newTexts h.body = cut (shownLines new) (p.new + 1) (q.new + 1)
  begun : p.old + 1 ≤ max old.size 1
  oldInside : q.old ≤ old.size
  newInside : q.new ≤ new.size

theorem Stands.counted {h : Hunk} (stands : Stands old new p q h) : h.Counted := by
  have holdEnd := stands.oldEnd
  have hnewEnd := stands.newEnd
  rw [Hunk.oldEnd, stands.oldFirst] at holdEnd
  rw [stands.newFirst] at hnewEnd
  have holdInside := stands.oldInside
  have hnewInside := stands.newInside
  refine ⟨?_, ?_⟩
  · rw [stands.oldTexts, Hunk.length_cut (by omega) (by rw [length_shownLines]; omega)]
    omega
  · rw [stands.newTexts, Hunk.length_cut (by omega) (by rw [length_shownLines]; omega)]
    omega

theorem Framed.stands (h : Framed old new p q (op :: ops)) {hunk : Hunk}
    (hbody : hunk.body = (op :: ops).flatMap (opBody old new))
    (hold : hunk.oldStart = rangeStart p.old q.old ∧ hunk.oldCount = q.old - p.old)
    (hnew : hunk.newStart = rangeStart p.new q.new ∧ hunk.newCount = q.new - p.new) :
    Stands old new p q hunk := by
  obtain ⟨hleOld, hleNew, -⟩ := h.walk.places_le
  obtain ⟨htextsOld, htextsNew⟩ := h.walk.texts
  have holdFirst : hunk.oldFirst = p.old + 1 := by
    rw [Hunk.oldFirst, hold.1, hold.2, firstLine_rangeStart]
  have hnewFirst : hunk.newFirst = p.new + 1 := by
    rw [Hunk.newFirst, hnew.1, hnew.2, firstLine_rangeStart]
  have hinside := h.oldInside
  refine ⟨⟨fun hcount => ?_, fun hcount => ?_⟩, holdFirst, ?_, hnewFirst, ?_, hbody ▸ htextsOld,
    hbody ▸ htextsNew, ?_, h.oldInside, h.newInside⟩
  · rw [hold.1]
    exact rangeStart_pos (hold.2 ▸ hcount)
  · rw [hnew.1]
    exact rangeStart_pos (hnew.2 ▸ hcount)
  · rw [Hunk.oldEnd, holdFirst, hold.2]
    omega
  · rw [hnewFirst, hnew.2]
    omega
  · have hmoves := h.front_moves
    omega

/-- The header counts the body exactly when the operations at the ends of the group have the
indices of its places. -/
theorem Framed.counted_iff (h : Framed old new p q (op :: ops)) :
    (hunkFrom old new op ops).Counted ↔ op.BeginsAt p.old p.new ∧
      ((op :: ops).getLast (List.cons_ne_nil _ _)).EndsAt q.old q.new := by
  constructor
  · rintro ⟨hcountOld, hcountNew⟩
    obtain ⟨hfirstOld, hfirstNew⟩ := h.front_indices
    obtain ⟨hendOld, hendNew, hends⟩ := h.back_ends
    have hmoves := h.front_moves
    obtain ⟨hleOld, hleNew, -⟩ := h.walk.places_le
    obtain ⟨htextsOld, htextsNew⟩ := h.walk.texts
    have hinsideOld := h.oldInside
    have hinsideNew := h.newInside
    -- no index lies outside the sequence, so ranges of the right lengths are the right ones
    have hlengthOld := congrArg List.length htextsOld
    have hlengthNew := congrArg List.length htextsNew
    rw [Hunk.length_cut (by omega) (by rw [length_shownLines]; omega)] at hlengthOld hlengthNew
    have hgroupOld := hcountOld.trans hlengthOld
    have hgroupNew := hcountNew.trans hlengthNew
    simp only [hunkFrom] at hgroupOld hgroupNew
    refine ⟨⟨?_, ?_⟩, ?_, ?_⟩ <;> omega
  · rintro ⟨⟨hold, hnew⟩, hendOld, hendNew⟩
    refine (h.stands rfl ⟨?_, ?_⟩ ⟨?_, ?_⟩).counted <;>
      simp only [hunkFrom, hold, hnew, hendOld, hendNew]

def standingHunk (old new : Array Text) (p q : Place) (g : List EditOp) : Hunk :=
  { oldStart := rangeStart p.old q.old
    oldCount := q.old - p.old
    newStart := rangeStart p.new q.new
    newCount := q.new - p.new
    comment := []
    body := g.flatMap (opBody old new) }

theorem Spaced.le {gs : List (List EditOp)} (h : Spaced old new o r p gs) :
    p.old ≤ r.old ∧ p.new ≤ r.new := by
  induction gs generalizing p with
  | nil =>
    obtain ⟨k, -, rfl⟩ := h
    exact ⟨Nat.le_add_right _ _, Nat.le_add_right _ _⟩
  | cons g gs ih =>
    obtain ⟨k, -, q, hwalk, -, -, hrest⟩ := h
    have hle := hwalk.places_le
    have hbehind := ih hrest
    simp only [Place.skip] at hle
    omega

section Spaced

variable {c : Nat} {gs : List (List EditOp)}

theorem Spaced.first_framed (h : Spaced old new ⟨0, 0, 0⟩ ⟨old.size, new.size, c⟩ p (g :: gs)) :
    ∃ k, Alike old new p.old p.new k ∧ ∃ q, Framed old new (p.skip k) q g ∧
      Spaced old new ⟨0, 0, 0⟩ ⟨old.size, new.size, c⟩ q gs := by
  obtain ⟨k, halike, q, hwalk, hfront, hback, hrest⟩ := h
  obtain ⟨hleOld, hleNew⟩ := hrest.le
  refine ⟨k, halike, q, ⟨hwalk, fun op hop => ?_, fun op hop => ?_, hleOld, hleNew⟩, hrest⟩
  · exact (hfront op hop).imp_right fun hp => ⟨congrArg Place.old hp, congrArg Place.new hp⟩
  · exact (hback op hop).imp_right fun hq => ⟨congrArg Place.old hq, congrArg Place.new hq⟩

theorem Spaced.framed (h : Spaced old new ⟨0, 0, 0⟩ ⟨old.size, new.size, c⟩ p gs) :
    ∀ g ∈ gs, ∃ p q, Framed old new p q g := by
  induction gs generalizing p with
  | nil => exact fun g hg => absurd hg List.not_mem_nil
  | cons g gs ih =>
    obtain ⟨k, -, q, hframed, hrest⟩ := h.first_framed
    exact List.forall_mem_cons.mpr ⟨⟨_, _, hframed⟩, ih hrest⟩

end Spaced

theorem Alike.cut_eq {k : Nat} (h : Alike old new p.old p.new k) :
    cut (shownLines old) (p.old + 1) (p.old + k + 1) =
      cut (shownLines new) (p.new + 1) (p.new + k + 1) := by
  rw [← map_lineOf_itemsAt, ← map_lineOf_itemsAt, h.itemsAt_eq]

/-- Hunks that stand one behind another from a place on, with equal lines between them. -/
def Standing (old new : Array Text) (p : Place) : List Hunk → Prop
  | [] => ∃ k, Alike old new p.old p.new k ∧ p.old + k = old.size ∧ p.new + k = new.size
  | h :: hs => ∃ k, Alike old new p.old p.new k ∧ ∃ q, Stands old new (p.skip k) q h ∧
      Standing old new q hs

theorem Standing.replays {hunks : List Hunk} (h : Standing old new p hunks) :
    Hunk.PlacedFrom old.size (p.old + 1) ((p.new : Int) - p.old) hunks ∧
      Hunk.replayFrom (shownLines old) (p.old + 1) hunks = (shownLines new).drop p.new ∧
      ∀ hunk ∈ hunks,
        hunk.Counted ∧ hunk.Shows (shownLines old) ∧ hunk.oldFirst ≤ max old.size 1 := by
  induction hunks generalizing p with
  | nil =>
    obtain ⟨k, halike, hendOld, hendNew⟩ := h
    have hold := Hunk.cut_append_drop (shownLines old) (Nat.le_add_left 1 p.old)
      (Nat.add_le_add_right (Nat.le_add_right p.old k) 1)
    have hnew := Hunk.cut_append_drop (shownLines new) (Nat.le_add_left 1 p.new)
      (Nat.add_le_add_right (Nat.le_add_right p.new k) 1)
    rw [List.drop_eq_nil_of_le (by rw [length_shownLines]; omega), List.append_nil] at hold hnew
    refine ⟨show p.old + 1 ≤ old.size + 1 by omega, ?_, fun hunk hmem => ?_⟩
    · exact hold.symm.trans (halike.cut_eq.trans hnew)
    · exact absurd hmem List.not_mem_nil
  | cons hunk hunks ih =>
    obtain ⟨k, halike, q, stands, hrest⟩ := h
    obtain ⟨hplaced, hreplay, hshown⟩ := ih hrest
    have hoff := stands.oldFirst
    have hend := stands.oldEnd
    have hon := stands.newFirst
    have hnewEnd := stands.newEnd
    have htexts := stands.newTexts
    have hbegun := stands.begun
    have hoffEnd := hunk.oldFirst_le_oldEnd
    simp only [Place.skip] at hoff hon htexts hbegun
    have hshift : (p.new : Int) - p.old + hunk.shift = q.new - q.old := by
      rw [Hunk.oldEnd] at hend
      rw [Hunk.shift]
      omega
    refine ⟨⟨stands.started, by omega, by omega, ?_⟩, ?_,
      List.forall_mem_cons.mpr ⟨⟨stands.counted, ?_, by omega⟩, hshown⟩⟩
    · rw [hend, hshift]
      exact hplaced
    · rw [Hunk.replayFrom, hoff, hend, htexts, hreplay, halike.cut_eq,
        cut_append_cut _ (by omega) (by omega) (by omega)]
      exact Hunk.cut_append_drop _ (by omega) (by omega)
    · rw [Hunk.Shows, stands.oldTexts, stands.oldFirst, hend]

theorem Spaced.exists_standing {c : Nat} {gs : List (List EditOp)}
    (h : Spaced old new ⟨0, 0, 0⟩ ⟨old.size, new.size, c⟩ p gs) :
    ∃ hunks, Standing old new p hunks ∧
      hunks.map (·.body) = (gs.filterMap (hunkOf? old new)).map (·.body) ∧
      ((∀ hunk ∈ gs.filterMap (hunkOf? old new), hunk.Counted) →
        hunks = gs.filterMap (hunkOf? old new)) := by
  -- a group whose header miscounts is given its ranges, and any other keeps its header
  induction gs generalizing p with
  | nil =>
    obtain ⟨k, halike, hend⟩ := h
    exact ⟨[], ⟨k, halike, congrArg Place.old hend, congrArg Place.new hend⟩, rfl, fun _ => rfl⟩
  | cons g gs ih =>
    obtain ⟨k, halike, q, hframed, hrest⟩ := h.first_framed
    cases g with
    | nil =>
      obtain rfl := walk_nil.mp hframed.walk
      exact ih (hrest.skip halike)
    | cons op ops =>
      obtain ⟨hunks, hstanding, hbodies, hsame⟩ := ih hrest
      have hcons : ((op :: ops) :: gs).filterMap (hunkOf? old new) =
          hunkFrom old new op ops :: gs.filterMap (hunkOf? old new) := rfl
      rw [hcons, List.map_cons]
      by_cases hcounted : (hunkFrom old new op ops).Counted
      · obtain ⟨⟨hfirstOld, hfirstNew⟩, hendOld, hendNew⟩ := hframed.counted_iff.mp hcounted
        have hstands : Stands old new (p.skip k) q (hunkFrom old new op ops) := by
          refine hframed.stands rfl ⟨?_, ?_⟩ ⟨?_, ?_⟩ <;>
            simp only [hunkFrom, hfirstOld, hfirstNew, hendOld, hendNew]
        refine ⟨_ :: hunks, ⟨k, halike, q, hstands, hstanding⟩, by rw [List.map_cons, hbodies], ?_⟩
        exact fun hall => by rw [hsame (List.forall_mem_cons.mp hall).2]
      · have hstands : Stands old new (p.skip k) q
            (standingHunk old new (p.skip k) q (op :: ops)) :=
          hframed.stands rfl ⟨rfl, rfl⟩ ⟨rfl, rfl⟩
        refine ⟨_ :: hunks, ⟨k, halike, q, hstands, hstanding⟩, ?_, ?_⟩
        · rw [List.map_cons, hbodies]
          rfl
        · exact fun hall => absurd (List.forall_mem_cons.mp hall).1 hcounted

theorem Framed.headerFits (h : Framed old new p q g) (hold : old.size ≤ maxNumber)
    (hnew : new.size ≤ maxNumber) : HeaderFits g := by
  cases g with
  | nil => trivial
  | cons op ops =>
    have hfits : ∀ {first last size : Nat}, first ≤ size → last ≤ size → size ≤ maxNumber →
        Hunk.Header.RangeFits first last := by
      intro first last size hfirst hlast hsize
      refine ⟨?_, by omega⟩
      unfold rangeStart
      split <;> omega
    obtain ⟨hfirstOld, hfirstNew⟩ := h.front_indices
    obtain ⟨hendOld, hendNew, -⟩ := h.back_ends
    obtain ⟨hleOld, hleNew, -⟩ := h.walk.places_le
    have hinsideOld := h.oldInside
    have hinsideNew := h.newInside
    exact ⟨hfits (by omega) (Nat.le_trans hendOld hinsideOld) hold,
      hfits (by omega) (Nat.le_trans hendNew hinsideNew) hnew⟩

end EditScript
end DiffBudget
