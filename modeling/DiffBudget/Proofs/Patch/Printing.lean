import DiffBudget.Patch.Rebuild
import DiffBudget.Proofs.Hunk.Header
import DiffBudget.Proofs.Patch.Reading
import DiffBudget.Proofs.Text.Lines

/-!
# Printed groups are read back

The unified form of a group is a header and the marked lines of its operations. Where every line
is ended, reading the form gives one hunk for each group, with the ranges that the first and the
last operation of the group name, unless a number does not fit.
-/
namespace DiffBudget.EditScript

open Text (Ended lineOf)
open Hunk.Header (rangeStart RangeFits)

variable {old new : Array Text}

def opBody (old new : Array Text) (op : EditOp) : List BodyLine :=
  let ofOld (kind : LineKind) : List BodyLine :=
    (itemsAt old op.oldIndex op.oldCount).map fun e => ⟨kind, lineOf e⟩
  let ofNew (kind : LineKind) : List BodyLine :=
    (itemsAt new op.newIndex op.newCount).map fun e => ⟨kind, lineOf e⟩
  match op.tag with
  | .equal => ofOld .context
  | .delete => ofOld .removed
  | .insert => ofNew .added
  | .replace => ofOld .removed ++ ofNew .added

def hunkFrom (old new : Array Text) (op : EditOp) (ops : List EditOp) : Hunk :=
  let last := (op :: ops).getLast (List.cons_ne_nil _ _)
  { oldStart := rangeStart op.oldIndex last.oldEnd
    oldCount := last.oldEnd - op.oldIndex
    newStart := rangeStart op.newIndex last.newEnd
    newCount := last.newEnd - op.newIndex
    comment := []
    body := (op :: ops).flatMap (opBody old new)
    written := some (headerText op last) }

def hunkOf? (old new : Array Text) : List EditOp → Option Hunk
  | [] => none
  | op :: ops => some (hunkFrom old new op ops)

def HeaderFits : List EditOp → Prop
  | [] => True
  | op :: ops =>
    let last := (op :: ops).getLast (List.cons_ne_nil _ _)
    RangeFits op.oldIndex last.oldEnd ∧ RangeFits op.newIndex last.newEnd

instance decidableHeaderFits : (g : List EditOp) → Decidable (HeaderFits g)
  | [] => inferInstanceAs (Decidable True)
  | _ :: _ => inferInstanceAs (Decidable (_ ∧ _))

theorem lines_marked_append {es : List Text} (hes : ∀ e ∈ es, Ended e) (kind : LineKind)
    (t : Text) :
    Text.lines ((es.map (markedLine kind.mark)).flatten ++ t) =
      (es.map fun e => (⟨kind, lineOf e⟩ : BodyLine)).map BodyLine.marked ++ t.lines := by
  have hmark : kind.mark ≠ '\n' ∧ kind.mark ≠ '\r' := by cases kind <;> decide
  induction es with
  | nil => rfl
  | cons e es ih =>
    obtain ⟨he, hes⟩ := List.forall_mem_cons.mp hes
    rw [List.map_cons, List.flatten_cons, List.append_assoc,
      Text.lines_markedLine_append he hmark.1 hmark.2, ih hes]
    rfl

theorem ended_of_mem_itemsAt {items : Array Text} (h : ∀ e ∈ items.toList, Ended e)
    (first count : Nat) : ∀ e ∈ itemsAt items first count, Ended e :=
  fun e he => h e (List.mem_of_mem_drop (List.mem_of_mem_take he))

section Lines

variable (hold : ∀ e ∈ old.toList, Ended e) (hnew : ∀ e ∈ new.toList, Ended e)

include hold hnew

theorem lines_opLines_append (op : EditOp) (t : Text) :
    Text.lines ((opLines old new op).flatten ++ t) =
      (opBody old new op).map BodyLine.marked ++ t.lines := by
  have hofOld := lines_marked_append (ended_of_mem_itemsAt hold op.oldIndex op.oldCount)
  have hofNew := lines_marked_append (ended_of_mem_itemsAt hnew op.newIndex op.newCount)
  unfold opLines opBody
  cases op.tag with
  | equal => exact hofOld .context t
  | delete => exact hofOld .removed t
  | insert => exact hofNew .added t
  | replace =>
    simp only [List.flatten_append, List.map_append, List.append_assoc]
    rw [← hofNew .added t]
    exact hofOld .removed _

theorem lines_opsLines_append (ops : List EditOp) (t : Text) :
    Text.lines ((ops.flatMap (opLines old new)).flatten ++ t) =
      (ops.flatMap (opBody old new)).map BodyLine.marked ++ t.lines := by
  induction ops with
  | nil => rfl
  | cons op ops ih =>
    rw [List.flatMap_cons, List.flatten_append, List.append_assoc,
      lines_opLines_append hold hnew, ih, List.flatMap_cons, List.map_append, List.append_assoc]

theorem lines_hunkText_append (op : EditOp) (ops : List EditOp) (t : Text) :
    Text.lines (hunkText old new (op :: ops) ++ t) =
      (hunkFrom old new op ops).toLines ++ t.lines := by
  have hreturn : ∀ last, Text.dropReturn (headerText op last) = headerText op last := by
    intro last
    have hlast : (headerText op last).getLast? = some '@' := by
      rw [Hunk.Header.headerText_eq, List.getLast?_append]
      rfl
    rw [Text.dropReturn, hlast, if_neg (by decide)]
  rw [hunkText, List.append_assoc, List.cons_append,
    Text.lines_append_newline (Hunk.Header.newline_not_mem_headerText _ _), hreturn,
    lines_opsLines_append hold hnew]
  rfl

end Lines

theorem isHeaderLine_headerText (first last : EditOp) :
    Hunk.isHeaderLine (headerText first last) = true := by
  simp [Hunk.isHeaderLine, Hunk.Header.headerText_eq]

theorem ofLines_hunkFrom_append (op : EditOp) (ops : List EditOp) {rest : List Text}
    (hrest : ∀ l ∈ rest.head?, Hunk.isHeaderLine l = true) :
    Hunk.ofLines ((hunkFrom old new op ops).toLines ++ rest) =
      if HeaderFits (op :: ops) then (Hunk.ofLines rest).map (hunkFrom old new op ops :: ·)
      else .error (.malformedHeader (hunkFrom old new op ops).header) := by
  have hread := Hunk.Header.read?_headerText op ((op :: ops).getLast (List.cons_ne_nil _ _))
  change Hunk.Header.read? (hunkFrom old new op ops).header = _ at hread
  by_cases hfits : HeaderFits (op :: ops)
  · rw [if_pos (show _ ∧ _ from hfits)] at hread
    rw [if_pos hfits]
    exact Hunk.ofLines_toLines_append hread hrest
  · rw [if_neg (show ¬(_ ∧ _) from hfits)] at hread
    rw [if_neg hfits]
    exact Hunk.ofLines_cons_of_malformed hread

section Parse

variable (hold : ∀ e ∈ old.toList, Ended e) (hnew : ∀ e ∈ new.toList, Ended e)

include hold hnew

theorem isHeaderLine_head (gs : List (List EditOp)) :
    ∀ l ∈ (Text.lines (gs.flatMap (hunkText old new))).head?, Hunk.isHeaderLine l = true := by
  induction gs with
  | nil => exact fun l hl => by cases hl
  | cons g gs ih =>
    cases g with
    | nil => exact ih
    | cons op ops =>
      rw [List.flatMap_cons, lines_hunkText_append hold hnew]
      rintro l ⟨⟩
      exact isHeaderLine_headerText _ _

theorem ofLines_groups_iff (gs : List (List EditOp)) (hunks : List Hunk) :
    Hunk.ofLines (Text.lines (gs.flatMap (hunkText old new))) = .ok hunks ↔
      (∀ g ∈ gs, HeaderFits g) ∧ hunks = gs.filterMap (hunkOf? old new) := by
  induction gs generalizing hunks with
  | nil =>
    rw [List.flatMap_nil, Text.lines_nil, Hunk.ofLines, Except.ok.injEq, eq_comm]
    exact ⟨fun h => ⟨fun g hg => absurd hg List.not_mem_nil, h⟩, fun h => h.2⟩
  | cons g gs ih =>
    cases g with
    | nil =>
      rw [List.forall_mem_cons]
      exact (ih hunks).trans ⟨fun h => ⟨⟨trivial, h.1⟩, h.2⟩, fun h => ⟨h.1.2, h.2⟩⟩
    | cons op ops =>
      rw [List.flatMap_cons, lines_hunkText_append hold hnew,
        ofLines_hunkFrom_append op ops (isHeaderLine_head hold hnew gs), List.forall_mem_cons]
      have hcons : ((op :: ops) :: gs).filterMap (hunkOf? old new) =
          hunkFrom old new op ops :: gs.filterMap (hunkOf? old new) := rfl
      rw [hcons]
      by_cases hfits : HeaderFits (op :: ops)
      · rw [if_pos hfits]
        constructor
        · intro hok
          cases hrest : Hunk.ofLines (Text.lines (gs.flatMap (hunkText old new))) with
          | error e => simp [hrest, Except.map] at hok
          | ok rest =>
            obtain ⟨hgs, rfl⟩ := (ih rest).mp hrest
            rw [hrest] at hok
            exact ⟨⟨hfits, hgs⟩, (Except.ok.inj hok).symm⟩
        · rintro ⟨⟨-, hgs⟩, rfl⟩
          rw [(ih _).mpr ⟨hgs, rfl⟩]
          rfl
      · rw [if_neg hfits]
        exact ⟨fun h => (by cases h), fun h => absurd h.1.1 hfits⟩

/-- Printed groups are read as their hunks exactly when all numbers fit. -/
theorem parse_groups_iff (gs : List (List EditOp)) (hunks : List Hunk) :
    Patch.parse (gs.flatMap (hunkText old new)) = .ok hunks ↔
      (∀ g ∈ gs, HeaderFits g) ∧ hunks = gs.filterMap (hunkOf? old new) := by
  have hhead := isHeaderLine_head hold hnew gs
  rw [← ofLines_groups_iff hold hnew, Patch.parse]
  cases hlines : Text.lines (gs.flatMap (hunkText old new)) with
  | nil => rfl
  | cons l ls =>
    rw [hlines] at hhead
    rw [List.dropWhile_cons_of_neg]
    simp [hhead l rfl]

end Parse

end DiffBudget.EditScript
