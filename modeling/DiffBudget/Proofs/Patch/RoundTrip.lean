import DiffBudget.Proofs.Hunk.Header
import DiffBudget.Proofs.Patch.Reading
import DiffBudget.Rendering

/-!
# Printed hunks are read back

A hunk that was read keeps its header line, and a hunk that was built prints its header in full.
Both are read as the same numbers and the same comment, and each body line begins with a mark, so
none of them is taken for a header or for a remark. A list of hunks is therefore read back from
its patch, and from its plain rendering, where the lines in front of the first header are ignored.
-/
namespace DiffBudget

namespace Hunk

def IsRead (h : Hunk) : Prop := ∃ patch hunks, Patch.parse patch = .ok hunks ∧ h ∈ hunks

structure IsBuilt (h : Hunk) : Prop where
  unwritten : h.written = none
  fits : h.headerFields.Fits

structure Printable (h : Hunk) : Prop where
  origin : h.IsRead ∨ h.IsBuilt
  comment : h.comment.IsLine
  body : ∀ l ∈ h.body, l.text.IsLine
  written : ∀ line ∈ h.written, line.IsLine

theorem IsRead.exists_written {h : Hunk} (hread : h.IsRead) :
    ∃ line, h.written = some line ∧ Header.read? line = some h.headerFields := by
  obtain ⟨patch, hunks, hparse, hmem⟩ := hread
  exact written_of_ofLines hparse h hmem

theorem IsRead.asRead {h : Hunk} (hread : h.IsRead) : h.asRead = h := by
  obtain ⟨line, hwritten, -⟩ := hread.exists_written
  rw [Hunk.asRead, header, hwritten, Option.getD_some, ← hwritten]

theorem Printable.isLine_header {h : Hunk} (hprint : h.Printable) : h.header.IsLine := by
  unfold header
  cases hwritten : h.written with
  | none => exact Header.isLine_format hprint.comment
  | some line => exact hprint.written line hwritten

theorem Printable.read?_header {h : Hunk} (hprint : h.Printable) :
    Header.read? h.header = some h.headerFields := by
  unfold header
  rcases hprint.origin with hread | hbuilt
  · obtain ⟨line, hwritten, hline⟩ := hread.exists_written
    rw [hwritten]
    exact hline
  · rw [hbuilt.unwritten]
    exact Header.read?_format hbuilt.fits hprint.comment

theorem isLine_marked {l : BodyLine} (h : l.text.IsLine) : l.marked.IsLine :=
  h.cons (by cases l.kind <;> decide) (by cases l.kind <;> decide)

theorem Printable.toLines {h : Hunk} (hprint : h.Printable) :
    ∀ l ∈ h.toLines, l.IsLine ∧ l ≠ [] := by
  refine List.forall_mem_cons.mpr ⟨⟨hprint.isLine_header, ?_⟩, ?_⟩
  · intro hempty
    have hread := hprint.read?_header
    rw [hempty] at hread
    cases hread
  · intro l hl
    obtain ⟨b, hb, rfl⟩ := List.mem_map.mp hl
    exact ⟨isLine_marked (hprint.body b hb), List.cons_ne_nil _ _⟩

theorem isHeaderLine_head_toLines {hunks : List Hunk} (hprint : ∀ h ∈ hunks, h.Printable) :
    ∀ l ∈ (hunks.flatMap toLines).head?, isHeaderLine l = true := by
  cases hunks with
  | nil => exact fun l hl => by cases hl
  | cons h hunks =>
    rintro l ⟨⟩
    exact isHeaderLine_of_read (hprint h List.mem_cons_self).read?_header

theorem ofLines_flatMap_toLines {hunks : List Hunk} (hprint : ∀ h ∈ hunks, h.Printable) :
    ofLines (hunks.flatMap toLines) = .ok (hunks.map Hunk.asRead) := by
  induction hunks with
  | nil => rw [List.flatMap_nil, ofLines, List.map_nil]
  | cons h hunks ih =>
    obtain ⟨hfirst, hrest⟩ := List.forall_mem_cons.mp hprint
    rw [List.flatMap_cons,
      ofLines_toLines_append hfirst.read?_header (isHeaderLine_head_toLines hrest), ih hrest]
    rfl

end Hunk

namespace Patch

open Hunk (isHeaderLine toLines)

variable {hunks : List Hunk}

theorem isLine_toLines (hprint : ∀ h ∈ hunks, h.Printable) :
    ∀ l ∈ hunks.flatMap toLines, l.IsLine ∧ l ≠ [] := by
  intro l hl
  obtain ⟨h, hh, hl⟩ := List.mem_flatMap.mp hl
  exact (hprint h hh).toLines l hl

theorem lines_print (hprint : ∀ h ∈ hunks, h.Printable) :
    (print hunks).lines = hunks.flatMap toLines :=
  Text.lines_joinLines (fun l hl => (isLine_toLines hprint l hl).1)
    fun l hl => (isLine_toLines hprint l hl).2

theorem lines_plain (hprint : ∀ h ∈ hunks, h.Printable) {filename : Text}
    (hname : '\n' ∉ filename) : (Rendering.plain filename hunks).lines =
      Text.dropReturn (Rendering.heading filename) ::
        if hunks.isEmpty then [] else [] :: hunks.flatMap toLines := by
  have hheading : '\n' ∉ Rendering.heading filename := by simp [Rendering.heading, hname]
  rw [Rendering.plain, Text.unlines_cons, Text.lines_append_newline hheading, Text.lines_unlines]
  intro l hl
  split at hl
  · cases hl
  · rcases List.mem_cons.mp hl with rfl | hl
    · decide
    · exact (isLine_toLines hprint l hl).1

theorem not_isHeaderLine_heading (filename : Text) :
    isHeaderLine (Text.dropReturn (Rendering.heading filename)) = false := by
  have hcons : Rendering.heading filename = '#' :: ("# ".toList ++ filename) := rfl
  rw [hcons, Text.dropReturn_cons (.inl (by decide))]
  rfl

/-- Hunks that were read or built are read back from their patch and from their plain rendering,
with the header lines that they print. Hunks that were read come back unchanged. -/
theorem print_round_trip (hprint : ∀ h ∈ hunks, h.Printable) {filename : Text}
    (hname : '\n' ∉ filename) :
    parse (print hunks) = .ok (hunks.map Hunk.asRead) ∧
      parse (Rendering.plain filename hunks) = .ok (hunks.map Hunk.asRead) ∧
      ∀ h ∈ hunks, h.asRead.headerFields = h.headerFields ∧ h.asRead.body = h.body ∧
        h.asRead.header = h.header ∧ (h.IsRead → h.asRead = h) := by
  have hread := Hunk.ofLines_flatMap_toLines hprint
  have hdrop : (hunks.flatMap toLines).dropWhile (! isHeaderLine ·) = hunks.flatMap toLines := by
    have hhead := Hunk.isHeaderLine_head_toLines hprint
    cases hlines : hunks.flatMap toLines with
    | nil => rfl
    | cons l ls =>
      rw [hlines] at hhead
      rw [List.dropWhile_cons_of_neg]
      simp [hhead l rfl]
  refine ⟨?_, ?_, fun h hh => ⟨rfl, rfl, rfl, Hunk.IsRead.asRead⟩⟩
  · rw [parse, lines_print hprint, hdrop, hread]
  · rw [parse, lines_plain hprint hname,
      List.dropWhile_cons_of_pos (by simp [not_isHeaderLine_heading])]
    cases hunks with
    | nil => exact hread
    | cons h hunks =>
      rw [if_neg (by simp), List.dropWhile_cons_of_pos (by decide), hdrop, hread]

def Sample.reprinted : List Hunk :=
  [{ oldStart := 3, oldCount := 1, newStart := 3, newCount := 2, comment := "main".toList
     body := [⟨.context, "@@ -1 +1 @@".toList⟩, ⟨.added, []⟩]
     written := some "@@ -3 +3,2 @@main".toList },
   { oldStart := 0, oldCount := maxNumber, newStart := 9, newCount := 0, comment := " run".toList
     body := [⟨.removed, "\\ no".toList⟩] }]

theorem print_round_trip_of_reprinted :
    (∀ h ∈ Sample.reprinted, h.Printable) ∧ '\n' ∉ "f\r".toList ∧
      parse (Rendering.plain "f\r".toList Sample.reprinted) =
        .ok (Sample.reprinted.map Hunk.asRead) := by
  have hread : Hunk.IsRead (Sample.reprinted.get ⟨0, by decide⟩) :=
    ⟨"@@ -3 +3,2 @@main\n @@ -1 +1 @@\n+\n".toList, _, by decide +kernel, List.mem_singleton_self _⟩
  have hbuilt : Hunk.IsBuilt (Sample.reprinted.get ⟨1, by decide⟩) :=
    ⟨rfl, by decide, by decide, by decide, by decide⟩
  have hprint : ∀ h ∈ Sample.reprinted, h.Printable := by
    intro h hh
    rcases List.mem_cons.mp hh with rfl | hh
    · exact ⟨.inl hread, by decide, by decide, by decide⟩
    · obtain rfl := List.mem_singleton.mp hh
      exact ⟨.inr hbuilt, by decide, by decide, by decide⟩
  have hname : '\n' ∉ "f\r".toList := by decide
  exact ⟨hprint, hname, (print_round_trip hprint hname).2.1⟩

end Patch
end DiffBudget
