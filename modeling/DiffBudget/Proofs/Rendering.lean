import DiffBudget.Proofs.Hunk.Header
import DiffBudget.Rendering
import Mathlib.Data.List.Basic

/-!
# What the numbered layout prints

A hunk is printed as its header, the lines of the new version behind their numbers and marks, and
the lines of the old version behind their marks. Either part has its label and is left out when it
has no lines. A line of the new version has one place in the text: it stands behind the hunks in
front of its own, the header, the label and one entry for each new line in front of it.
-/
namespace DiffBudget.Rendering

/-- A hunk as it is printed. -/
structure Block where
  header : Text
  numbered : List (Nat × BodyLine)
  unnumbered : List BodyLine

def entry (n : Nat) (l : BodyLine) : Text :=
  Nat.toDigits 10 n ++ [' ', l.kind.mark] ++ l.text ++ ['\n']

def Block.text (b : Block) : Text :=
  '\n' :: b.header ++ '\n' ::
    ((if b.numbered = [] then []
      else "__new hunk__\n".toList ++ b.numbered.flatMap fun p => entry p.1 p.2) ++
    if b.unnumbered = [] then []
      else "__old hunk__\n".toList ++ b.unnumbered.flatMap fun l => l.kind.mark :: l.text ++ ['\n'])

def layout (filename : Text) (blocks : List Block) : Text :=
  "## ".toList ++ filename ++ ['\n'] ++ blocks.flatMap Block.text

def blockOf (h : Hunk) : Block := ⟨h.header, newLines h, oldLines h⟩

variable {α : Type}

theorem unlines_append (ls ms : List Text) :
    Text.unlines (ls ++ ms) = Text.unlines ls ++ Text.unlines ms := List.flatMap_append

theorem unlines_map (f : α → Text) (xs : List α) :
    Text.unlines (xs.map f) = xs.flatMap fun x => f x ++ ['\n'] := List.flatMap_map ..

theorem unlines_flatMap (f : α → List Text) (xs : List α) :
    Text.unlines (xs.flatMap f) = xs.flatMap fun x => Text.unlines (f x) := List.flatMap_assoc

theorem unlines_labelled (label : Text) (f : α → Text) (xs : List α) [Decidable (xs = [])] :
    Text.unlines (labelled label (xs.map f)) =
      if xs = [] then [] else label ++ ['\n'] ++ xs.flatMap fun x => f x ++ ['\n'] := by
  cases xs with
  | nil => simp [labelled]
  | cons x xs =>
    rw [if_neg (List.cons_ne_nil x xs), ← unlines_map, List.append_assoc]
    exact Text.unlines_cons label _

theorem numberedLine_eq_entry (p : Nat × BodyLine) : numberedLine p ++ ['\n'] = entry p.1 p.2 := by
  simp [numberedLine, entry, BodyLine.marked, Text.ofNat]

theorem unlines_numberedHunk (h : Hunk) : Text.unlines (numberedHunk h) = (blockOf h).text := by
  have hnew : newLabel ++ ['\n'] = "__new hunk__\n".toList := rfl
  have hold : oldLabel ++ ['\n'] = "__old hunk__\n".toList := rfl
  rw [numberedHunk, Text.unlines_cons, Text.unlines_cons, unlines_append, unlines_labelled,
    unlines_labelled, hnew, hold]
  simp only [numberedLine_eq_entry]
  rfl

theorem numbered_eq_layout (filename : Text) (hunks : List Hunk) :
    numbered filename hunks = layout filename (hunks.map blockOf) := by
  rw [numbered, Text.unlines_cons, unlines_flatMap, layout, List.flatMap_map]
  simp only [unlines_numberedHunk, heading, List.append_assoc, List.singleton_append]

theorem numbered_append (filename : Text) (hunks more : List Hunk) :
    numbered filename (hunks ++ more) =
      numbered filename hunks ++ more.flatMap fun h => (blockOf h).text := by
  simp only [numbered_eq_layout, layout, List.map_append, List.flatMap_append, List.flatMap_map,
    List.append_assoc]

theorem numberedFrom_append (first : Nat) (ls ms : List BodyLine) :
    numberedFrom first (ls ++ ms) =
      numberedFrom first ls ++ numberedFrom (first + (ls.filter (·.inNew)).length) ms := by
  induction ls generalizing first with
  | nil => rfl
  | cons l ls ih =>
    by_cases h : l.inNew
    · simp [numberedFrom, h, ih, Nat.add_assoc, Nat.add_comm 1]
    · simp [numberedFrom, h, ih]

variable {before after : List Hunk} {h : Hunk} {front back : List BodyLine} {l : BodyLine}

theorem newLines_of_body (hbody : h.body = front ++ l :: back) (hl : l.inNew = true) :
    ∃ rest, newLines h = numberedFrom h.newStart front ++
      (h.newStart + (front.filter (·.inNew)).length, l) :: rest := by
  rw [newLines, hbody, numberedFrom_append]
  exact ⟨_, by rw [numberedFrom, if_pos hl]⟩

/-- The layout prints this number for the line `l`: what stands in front of the number is the print
of the hunks before `h`, the header of `h`, the label, and one entry for each new line of
`front`. -/
def PrintsNumber (hunks before : List Hunk) (h : Hunk) (front : List BodyLine) (l : BodyLine)
    (n : Nat) : Prop :=
  ∀ filename, ∃ (earlier : List (Nat × BodyLine)) (later : Text),
    earlier.map (·.2) = front.filter (·.inNew) ∧
    numbered filename hunks = numbered filename before ++ '\n' :: h.header ++
      "\n__new hunk__\n".toList ++ (earlier.flatMap fun p => entry p.1 p.2) ++ entry n l ++ later

theorem Block.text_of_numbered {b : Block} {earlier rest : List (Nat × BodyLine)} {n : Nat}
    (h : b.numbered = earlier ++ (n, l) :: rest) :
    ∃ later, b.text = '\n' :: b.header ++ "\n__new hunk__\n".toList ++
      (earlier.flatMap fun p => entry p.1 p.2) ++ entry n l ++ later := by
  have hlabel : "\n__new hunk__\n".toList = '\n' :: "__new hunk__\n".toList := rfl
  rw [Block.text, h, if_neg (by simp), hlabel]
  simp only [List.flatMap_append, List.flatMap_cons, List.append_assoc, List.cons_append,
    List.cons.injEq, true_and, List.append_cancel_left_eq, exists_eq']

theorem entry_append_inj {n m : Nat} {s t : Text} (h : entry n l ++ s = entry m l ++ t) :
    n = m ∧ s = t := by
  -- the number ends at the blank behind it
  have hends : ∀ k u, (entry k l ++ u).takeWhile Text.isDigit = Text.ofNat k := by
    intro k u
    rw [entry, List.append_assoc, List.append_assoc, List.append_assoc]
    exact takeWhile_run (fun c => Text.isDigit_of_mem_ofNat) (by simp [Text.isDigit])
  have hnumber : n = m := by
    rw [← Text.valueIn_ofNat n, ← hends n s, h, hends, Text.valueIn_ofNat]
  exact ⟨hnumber, List.append_cancel_left (hnumber ▸ h)⟩

theorem entries_append_inj {ps qs : List (Nat × BodyLine)} {s t : Text}
    (hlines : ps.map (·.2) = qs.map (·.2))
    (h : (ps.flatMap fun p => entry p.1 p.2) ++ s = (qs.flatMap fun p => entry p.1 p.2) ++ t) :
    ps = qs ∧ s = t := by
  induction ps generalizing qs with
  | nil =>
    obtain rfl := List.map_eq_nil_iff.mp hlines.symm
    exact ⟨rfl, h⟩
  | cons p ps ih =>
    obtain ⟨q, qs, rfl, hline, hrest⟩ := List.map_eq_cons_iff.mp hlines.symm
    rw [List.flatMap_cons, List.flatMap_cons, List.append_assoc, List.append_assoc, hline] at h
    obtain ⟨hnumber, htail⟩ := entry_append_inj h
    obtain ⟨rfl, rfl⟩ := ih hrest.symm htail
    exact ⟨congrArg (· :: ps) (Prod.ext hnumber hline.symm), rfl⟩

/-- A line has one number in the layout. -/
theorem PrintsNumber.unique {hunks : List Hunk} {n m : Nat}
    (hn : PrintsNumber hunks before h front l n) (hm : PrintsNumber hunks before h front l m) :
    n = m := by
  obtain ⟨earlier, later, hlines, htext⟩ := hn []
  obtain ⟨earlier', later', hlines', htext'⟩ := hm []
  rw [htext] at htext'
  simp only [List.append_assoc, List.append_cancel_left_eq, List.cons_append,
    List.cons.injEq, true_and] at htext'
  obtain ⟨-, hentry⟩ := entries_append_inj (hlines.trans hlines'.symm) htext'
  exact (entry_append_inj hentry).1

theorem printsNumber (hbody : h.body = front ++ l :: back) (hl : l.inNew = true)
    (before after : List Hunk) :
    PrintsNumber (before ++ h :: after) before h front l
      (h.newStart + (front.filter (·.inNew)).length) := by
  intro filename
  obtain ⟨rest, hnew⟩ := newLines_of_body hbody hl
  obtain ⟨later, htext⟩ := (blockOf h).text_of_numbered hnew
  refine ⟨numberedFrom h.newStart front, later ++ after.flatMap fun h => (blockOf h).text,
    numberedFrom_map_snd _ _, ?_⟩
  rw [numbered_append, List.flatMap_cons, htext]
  simp only [blockOf, List.append_assoc]

end DiffBudget.Rendering
