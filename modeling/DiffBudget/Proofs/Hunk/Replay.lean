import DiffBudget.Hunk.Widen
import Mathlib.Algebra.BigOperators.Group.List.Basic
import Mathlib.Data.List.Chain

/-!
# Replaying hunks

Hunks are placed in a file when they stand in order inside it and the new side of each is shifted
against its old side by what the hunks before it gain and lose. They are well formed for the old
lines when moreover their bodies agree with their headers and with these lines. Replaying them
gives the new lines: between the hunks the old lines stay, and each hunk puts its new lines in
the place of its old ones.
-/
namespace DiffBudget

namespace BodyLine

def oldTexts (ls : List BodyLine) : List Text := (ls.filter (·.inOld)).map (·.text)

def newTexts (ls : List BodyLine) : List Text := (ls.filter (·.inNew)).map (·.text)

@[simp] theorem oldTexts_append (ls ms : List BodyLine) :
    oldTexts (ls ++ ms) = oldTexts ls ++ oldTexts ms := by
  simp [oldTexts]

@[simp] theorem newTexts_append (ls ms : List BodyLine) :
    newTexts (ls ++ ms) = newTexts ls ++ newTexts ms := by
  simp [newTexts]

theorem oldTexts_context (ts : List Text) : oldTexts (ts.map (⟨.context, ·⟩)) = ts := by
  induction ts with
  | nil => rfl
  | cons t ts ih => simpa [oldTexts, inOld] using ih

theorem newTexts_context (ts : List Text) : newTexts (ts.map (⟨.context, ·⟩)) = ts := by
  induction ts with
  | nil => rfl
  | cons t ts ih => simpa [newTexts, inNew] using ih

end BodyLine

namespace Hunk

/-- The lines numbered `first` and up, those from `last` on left out. -/
def cut (ls : List Text) (first last : Nat) : List Text := (ls.drop (first - 1)).take (last - first)

theorem cut_self (ls : List Text) (n : Nat) : cut ls n n = [] := by
  simp [cut]

theorem length_cut {ls : List Text} {first last : Nat} (h₁ : 1 ≤ first)
    (h₂ : last ≤ ls.length + 1) : (cut ls first last).length = last - first := by
  simp only [cut, List.length_take, List.length_drop]
  omega

theorem cut_append_cut (ls : List Text) {a b c : Nat} (ha : 1 ≤ a) (hab : a ≤ b) (hbc : b ≤ c) :
    cut ls a b ++ cut ls b c = cut ls a c := by
  have hc : c - a = (b - a) + (c - b) := by omega
  have hb : b - 1 = (a - 1) + (b - a) := by omega
  simp only [cut]
  rw [hc, List.take_add, hb, ← List.drop_drop]

theorem cut_append_drop (ls : List Text) {a b : Nat} (ha : 1 ≤ a) (hab : a ≤ b) :
    cut ls a b ++ ls.drop (b - 1) = ls.drop (a - 1) := by
  have hb : b - 1 = (a - 1) + (b - a) := by omega
  simp only [cut]
  rw [hb, ← List.drop_drop, List.take_append_drop]

theorem contextFrom_eq (oldLines : List Text) (first number : Nat) :
    contextFrom oldLines first number =
      (cut oldLines first (first + number)).map (⟨.context, ·⟩) := by
  simp [contextFrom, cut]

@[simp] theorem oldTexts_contextFrom (oldLines : List Text) (first number : Nat) :
    BodyLine.oldTexts (contextFrom oldLines first number) =
      cut oldLines first (first + number) := by
  rw [contextFrom_eq, BodyLine.oldTexts_context]

@[simp] theorem newTexts_contextFrom (oldLines : List Text) (first number : Nat) :
    BodyLine.newTexts (contextFrom oldLines first number) =
      cut oldLines first (first + number) := by
  rw [contextFrom_eq, BodyLine.newTexts_context]

theorem oldEnd_pos (h : Hunk) : 1 ≤ h.oldEnd := h.oldFirst_pos.trans h.oldFirst_le_oldEnd

/-- The new lines from old line `pos` on. -/
def replayFrom (oldLines : List Text) (pos : Nat) : List Hunk → List Text
  | [] => oldLines.drop (pos - 1)
  | h :: hs =>
    cut oldLines pos h.oldFirst ++ BodyLine.newTexts h.body ++ replayFrom oldLines h.oldEnd hs

def replay (oldLines : List Text) (hunks : List Hunk) : List Text := replayFrom oldLines 1 hunks

def shift (h : Hunk) : Int := (h.newCount : Int) - h.oldCount

def shiftOf : List Hunk → Int
  | [] => 0
  | h :: hs => h.shift + shiftOf hs

def Started (h : Hunk) : Prop :=
  (h.oldCount ≠ 0 → 1 ≤ h.oldStart) ∧ (h.newCount ≠ 0 → 1 ≤ h.newStart)

def Counted (h : Hunk) : Prop :=
  h.oldCount = (BodyLine.oldTexts h.body).length ∧ h.newCount = (BodyLine.newTexts h.body).length

def Shows (oldLines : List Text) (h : Hunk) : Prop :=
  BodyLine.oldTexts h.body = cut oldLines h.oldFirst h.oldEnd

/-- The hunks stand in order inside a file of `length` lines. -/
structure Placed (length : Nat) (hunks : List Hunk) : Prop where
  started : ∀ h ∈ hunks, h.Started
  ordered : hunks.IsChain fun prev next => prev.oldEnd ≤ next.oldFirst
  inside : ∀ h ∈ hunks.getLast?, h.oldEnd ≤ length + 1
  aligned : ∀ front h back, hunks = front ++ h :: back →
    (h.newFirst : Int) = h.oldFirst + shiftOf front

/-- The hunks are placed among the old lines and say what these are. -/
structure WellFormed (oldLines : List Text) (hunks : List Hunk) : Prop
    extends Placed oldLines.length hunks where
  counted : ∀ h ∈ hunks, h.Counted
  shown : ∀ h ∈ hunks, h.Shows oldLines

/-- Hunks placed behind the line before `pos`, where the new lines run `shift` ahead. -/
def PlacedFrom (length pos : Nat) (shift : Int) : List Hunk → Prop
  | [] => pos ≤ length + 1
  | h :: hs =>
    h.Started ∧ pos ≤ h.oldFirst ∧ (h.newFirst : Int) = h.oldFirst + shift ∧
      PlacedFrom length h.oldEnd (shift + h.shift) hs

@[simp] theorem shiftOf_nil : shiftOf [] = 0 := rfl

@[simp] theorem shiftOf_cons (h : Hunk) (hs : List Hunk) :
    shiftOf (h :: hs) = h.shift + shiftOf hs := rfl

def endFrom (pos : Nat) : List Hunk → Nat
  | [] => pos
  | h :: hs => endFrom h.oldEnd hs

abbrev lastOf (first : Hunk) (rest : List Hunk) : Hunk :=
  (first :: rest).getLast (List.cons_ne_nil _ _)

theorem endFrom_cons (pos : Nat) (first : Hunk) (rest : List Hunk) :
    endFrom pos (first :: rest) = (lastOf first rest).oldEnd := by
  induction rest generalizing pos first with
  | nil => rfl
  | cons next rest ih =>
    rw [lastOf, List.getLast_cons_cons, ← ih first.oldEnd next]
    rfl

variable {length pos : Nat} {shift : Int}

namespace PlacedFrom

theorem le {hs : List Hunk} (placed : PlacedFrom length pos shift hs) : pos ≤ length + 1 := by
  induction hs generalizing pos shift with
  | nil => exact placed
  | cons h hs ih =>
    obtain ⟨-, hpos, -, rest⟩ := placed
    have hend := ih rest
    have hle := h.oldFirst_le_oldEnd
    omega

theorem behind {hs ts : List Hunk} (placed : PlacedFrom length pos shift (hs ++ ts)) :
    PlacedFrom length (endFrom pos hs) (shift + shiftOf hs) ts := by
  induction hs generalizing pos shift with
  | nil => simpa [endFrom] using placed
  | cons h hs ih =>
    obtain ⟨-, -, -, rest⟩ := placed
    simpa only [endFrom, shiftOf_cons, add_assoc] using ih rest

theorem front {hs ts : List Hunk} (placed : PlacedFrom length pos shift (hs ++ ts)) :
    PlacedFrom length pos shift hs := by
  induction hs generalizing pos shift with
  | nil => exact placed.le
  | cons h hs ih => exact ⟨placed.1, placed.2.1, placed.2.2.1, ih placed.2.2.2⟩

theorem le_head {hs : List Hunk} (placed : PlacedFrom length pos shift hs) :
    ∀ h ∈ hs.head?, pos ≤ h.oldFirst := by
  cases hs with
  | nil => simp
  | cons h hs => simpa using placed.2.1

theorem advance {q : Nat} {hs : List Hunk} (placed : PlacedFrom length pos shift hs)
    (hq : q ≤ length + 1) (hhead : ∀ h ∈ hs.head?, q ≤ h.oldFirst) :
    PlacedFrom length q shift hs := by
  cases hs with
  | nil => exact hq
  | cons h hs => exact ⟨placed.1, hhead h rfl, placed.2.2⟩

theorem mono {longer : Nat} {hs : List Hunk} (placed : PlacedFrom length pos shift hs)
    (hle : length ≤ longer) : PlacedFrom longer pos shift hs := by
  induction hs generalizing pos shift with
  | nil => exact Nat.le_trans placed (Nat.add_le_add_right hle 1)
  | cons h hs ih => exact ⟨placed.1, placed.2.1, placed.2.2.1, ih placed.2.2.2⟩

theorem started {hs : List Hunk} (placed : PlacedFrom length pos shift hs) :
    ∀ h ∈ hs, h.Started := by
  induction hs generalizing pos shift with
  | nil => simp
  | cons h hs ih => exact List.forall_mem_cons.mpr ⟨placed.1, ih placed.2.2.2⟩

theorem ordered {hs : List Hunk} (placed : PlacedFrom length pos shift hs) :
    hs.IsChain fun prev next => prev.oldEnd ≤ next.oldFirst := by
  induction hs generalizing pos shift with
  | nil => exact .nil
  | cons h hs ih =>
    obtain ⟨-, -, -, rest⟩ := placed
    cases hs with
    | nil => exact .singleton h
    | cons next hs => exact .cons_cons rest.2.1 (ih rest)

theorem inside {hs : List Hunk} (placed : PlacedFrom length pos shift hs) :
    ∀ h ∈ hs, h.oldEnd ≤ length + 1 := by
  induction hs generalizing pos shift with
  | nil => simp
  | cons h hs ih =>
    exact List.forall_mem_cons.mpr ⟨placed.2.2.2.le, ih placed.2.2.2⟩

theorem aligned {front back : List Hunk} {h : Hunk}
    (placed : PlacedFrom length pos shift (front ++ h :: back)) :
    (h.newFirst : Int) = h.oldFirst + (shift + shiftOf front) :=
  placed.behind.2.2.1

theorem of_parts {hs : List Hunk} (hend : hs = [] → pos ≤ length + 1)
    (hhead : ∀ h ∈ hs.head?, pos ≤ h.oldFirst) (hstarted : ∀ h ∈ hs, h.Started)
    (hordered : hs.IsChain fun prev next => prev.oldEnd ≤ next.oldFirst)
    (hinside : ∀ h ∈ hs.getLast?, h.oldEnd ≤ length + 1)
    (haligned : ∀ front h back, hs = front ++ h :: back →
      (h.newFirst : Int) = h.oldFirst + (shift + shiftOf front)) :
    PlacedFrom length pos shift hs := by
  induction hs generalizing pos shift with
  | nil => exact hend rfl
  | cons h hs ih =>
    refine ⟨hstarted h List.mem_cons_self, hhead h rfl, ?_, ih ?_ ?_ ?_ ?_ ?_ ?_⟩
    · simpa using haligned [] h hs rfl
    · rintro rfl
      exact hinside h rfl
    · exact fun next hnext => (List.isChain_cons.mp hordered).1 next hnext
    · exact fun next hnext => hstarted next (List.mem_cons_of_mem _ hnext)
    · exact hordered.tail
    · intro last hlast
      refine hinside last ?_
      rw [List.getLast?_cons, Option.mem_def.mp hlast]
      rfl
    · intro front next back hback
      have := haligned (h :: front) next back (by rw [hback, List.cons_append])
      rwa [shiftOf_cons, ← add_assoc shift] at this

end PlacedFrom

theorem placed_iff {hs : List Hunk} : Placed length hs ↔ PlacedFrom length 1 0 hs := by
  constructor
  · intro placed
    refine .of_parts (fun _ => Nat.le_add_left 1 length) (fun h _ => h.oldFirst_pos)
      placed.started placed.ordered placed.inside ?_
    intro front h back hback
    rw [zero_add]
    exact placed.aligned front h back hback
  · intro placed
    refine ⟨placed.started, placed.ordered, fun h hh => placed.inside h ?_, ?_⟩
    · exact List.mem_of_getLast? hh
    · rintro front h back rfl
      simpa using placed.aligned

instance (h : Hunk) : Decidable h.Started := inferInstanceAs (Decidable (_ ∧ _))

instance (h : Hunk) : Decidable h.Counted := inferInstanceAs (Decidable (_ ∧ _))

instance (oldLines : List Text) (h : Hunk) : Decidable (h.Shows oldLines) :=
  inferInstanceAs (Decidable (_ = _))

instance decidablePlacedFrom (length : Nat) :
    (pos : Nat) → (shift : Int) → (hs : List Hunk) → Decidable (PlacedFrom length pos shift hs)
  | pos, _, [] => inferInstanceAs (Decidable (pos ≤ length + 1))
  | _, shift, h :: hs =>
    have := decidablePlacedFrom length h.oldEnd (shift + h.shift) hs
    inferInstanceAs (Decidable (_ ∧ _ ∧ _ ∧ _))

instance (hs : List Hunk) : Decidable (Placed length hs) :=
  decidable_of_iff _ placed_iff.symm

instance (oldLines : List Text) (hs : List Hunk) : Decidable (WellFormed oldLines hs) :=
  decidable_of_iff (Placed oldLines.length hs ∧ (∀ h ∈ hs, h.Counted) ∧ ∀ h ∈ hs, h.Shows oldLines)
    ⟨fun ⟨placed, counted, shown⟩ => ⟨placed, counted, shown⟩,
      fun wf => ⟨wf.toPlaced, wf.counted, wf.shown⟩⟩

theorem replayFrom_advance (oldLines : List Text) {q : Nat} {hs : List Hunk} (hpos : 1 ≤ pos)
    (hq : pos ≤ q) (hhead : ∀ h ∈ hs.head?, q ≤ h.oldFirst) :
    cut oldLines pos q ++ replayFrom oldLines q hs = replayFrom oldLines pos hs := by
  cases hs with
  | nil => exact cut_append_drop oldLines hpos hq
  | cons h hs =>
    simp only [replayFrom, ← List.append_assoc]
    rw [cut_append_cut oldLines hpos hq (hhead h rfl)]

namespace Sample

def oldLines : List Text := "abcdefghi".toList.map fun c => [c]

def hunks : List Hunk :=
  [{ oldStart := 2, oldCount := 0, newStart := 3, newCount := 2, comment := []
     body := [⟨.added, ['x']⟩, ⟨.added, ['y']⟩] },
    { oldStart := 4, oldCount := 1, newStart := 5, newCount := 0, comment := []
      body := [⟨.removed, ['d']⟩] },
    { oldStart := 9, oldCount := 1, newStart := 10, newCount := 1, comment := []
      body := [⟨.removed, ['i']⟩, ⟨.added, ['z']⟩] }]

end Sample

end Hunk
end DiffBudget
