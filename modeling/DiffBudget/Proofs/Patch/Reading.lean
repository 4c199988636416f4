import DiffBudget.Patch
import DiffBudget.Proofs.Text.Lines
import Mathlib.Data.List.Basic
import Mathlib.Data.List.TakeWhile

/-!
# Which patches can be read

A patch is read unless some line begins like a header and is none. The fault names the first such
line.
-/
namespace DiffBudget

section Stop

variable {α : Type} {stops : α → Bool} {front back : List α}
  (hfront : ∀ a ∈ front, stops a = false) (hback : ∀ a ∈ back.head?, stops a = true)

include hfront hback

theorem takeWhile_append_stop : (front ++ back).takeWhile (! stops ·) = front := by
  refine takeWhile_run (fun a ha => ?_) fun a ha => ?_
  · rw [hfront a ha, Bool.not_false]
  · rw [hback a ha, Bool.not_true]

theorem dropWhile_append_stop : (front ++ back).dropWhile (! stops ·) = back := by
  refine dropWhile_run (fun a ha => ?_) fun a ha => ?_
  · rw [hfront a ha, Bool.not_false]
  · rw [hback a ha, Bool.not_true]

end Stop

namespace Hunk

def isMalformed (line : Text) : Bool := isHeaderLine line && (Header.read? line).isNone

theorem takeBody_append {body rest : List Text} (hbody : ∀ l ∈ body, isHeaderLine l = false)
    (hrest : ∀ l ∈ rest.head?, isHeaderLine l = true) :
    takeBody (body ++ rest) = ((body.filter (! isRemark ·)).map BodyLine.ofMarked, rest) := by
  rw [takeBody, takeWhile_append_stop hbody hrest, dropWhile_append_stop hbody hrest]

theorem exists_block (ls : List Text) :
    ∃ body rest, ls = body ++ rest ∧ (∀ l ∈ body, isHeaderLine l = false) ∧
      ∀ l ∈ rest.head?, isHeaderLine l = true := by
  refine ⟨ls.takeWhile (! isHeaderLine ·), ls.dropWhile (! isHeaderLine ·),
    List.takeWhile_append_dropWhile.symm, fun l hl => ?_, fun l hl => ?_⟩
  · simpa using List.mem_takeWhile_imp hl
  · have hnot := List.head?_dropWhile_not (! isHeaderLine ·) ls
    rw [Option.mem_def.mp hl] at hnot
    simpa using hnot

theorem ofLines_cons_of_read {line : Text} {h : Header} {body rest : List Text}
    (hread : Header.read? line = some h) (hbody : ∀ l ∈ body, isHeaderLine l = false)
    (hrest : ∀ l ∈ rest.head?, isHeaderLine l = true) :
    ofLines (line :: (body ++ rest)) =
      (ofLines rest).map
        (ofHeader h line ((body.filter (! isRemark ·)).map BodyLine.ofMarked) :: ·) := by
  rw [ofLines, takeBody_append hbody hrest, Header.parse_eq_ok.mpr hread]
  cases ofLines rest <;> rfl

theorem ofLines_cons_of_malformed {line : Text} {ls : List Text}
    (hread : Header.read? line = none) :
    ofLines (line :: ls) = .error (.malformedHeader line) := by
  have hparse : Header.parse line = .error (.malformedHeader line) := by
    rw [Header.parse, hread]
  rw [ofLines, hparse]
  rfl

theorem isHeaderLine_of_read {line : Text} {h : Header} (hread : Header.read? line = some h) :
    isHeaderLine line = true := by
  unfold Header.read? at hread
  split at hread
  · cases hread
  · cases hfront : "@@ -".toList.isPrefixOf? line with
    | none =>
      rw [hfront] at hread
      cases hread
    | some t =>
      rw [← List.isPrefixOf?_eq_some_iff_append_eq.mp hfront]
      rfl

theorem isHeaderLine_marked (l : BodyLine) : isHeaderLine l.marked = false := by
  obtain ⟨kind, t⟩ := l
  cases kind <;> rfl

theorem isRemark_marked (l : BodyLine) : isRemark l.marked = false := by
  obtain ⟨kind, t⟩ := l
  cases kind <;> rfl

def asRead (h : Hunk) : Hunk := { h with written := some h.header }

theorem ofLines_toLines_append {h : Hunk} (hread : Header.read? h.header = some h.headerFields)
    {rest : List Text} (hrest : ∀ l ∈ rest.head?, isHeaderLine l = true) :
    ofLines (h.toLines ++ rest) = (ofLines rest).map (h.asRead :: ·) := by
  have hbody : ∀ l ∈ h.body.map BodyLine.marked, isHeaderLine l = false ∧ isRemark l = false := by
    rintro l hl
    obtain ⟨b, -, rfl⟩ := List.mem_map.mp hl
    exact ⟨isHeaderLine_marked b, isRemark_marked b⟩
  have hfilter : (h.body.map BodyLine.marked).filter (! isRemark ·) =
      h.body.map BodyLine.marked :=
    List.filter_eq_self.mpr fun l hl => by simp [(hbody l hl).2]
  have hmarked : (h.body.map BodyLine.marked).map BodyLine.ofMarked = h.body := by
    rw [List.map_map]
    exact (List.map_congr_left fun b _ => BodyLine.ofMarked_marked b).trans (List.map_id _)
  rw [toLines, List.cons_append, ofLines_cons_of_read hread (fun l hl => (hbody l hl).1) hrest,
    hfilter, hmarked]
  rfl

theorem written_of_ofLines {ls : List Text} {hunks : List Hunk} (hok : ofLines ls = .ok hunks) :
    ∀ h ∈ hunks, ∃ line, h.written = some line ∧ Header.read? line = some h.headerFields := by
  induction hn : ls.length using Nat.strongRecOn generalizing ls hunks with
  | ind n ih =>
    subst hn
    cases ls with
    | nil =>
      rw [ofLines, Except.ok.injEq] at hok
      exact hok ▸ fun h hh => absurd hh List.not_mem_nil
    | cons line ls =>
      cases hread : Header.read? line with
      | none =>
        rw [ofLines_cons_of_malformed hread] at hok
        cases hok
      | some header =>
        obtain ⟨body, rest, rfl, hbody, hrest⟩ := exists_block ls
        rw [ofLines_cons_of_read hread hbody hrest] at hok
        cases hhunks : ofLines rest with
        | error e =>
          rw [hhunks] at hok
          cases hok
        | ok hunks =>
          rw [hhunks] at hok
          cases hok
          exact List.forall_mem_cons.mpr ⟨⟨line, rfl, hread⟩,
            ih rest.length (by rw [List.length_cons, List.length_append]; omega) hhunks rfl⟩

theorem find?_malformed_append {body rest : List Text}
    (hbody : ∀ l ∈ body, isHeaderLine l = false) :
    (body ++ rest).find? isMalformed = rest.find? isMalformed := by
  have hnone : body.find? isMalformed = none :=
    List.find?_eq_none.mpr fun l hl => by simp [isMalformed, hbody l hl]
  rw [List.find?_append, hnone, Option.none_or]

theorem ofLines_spec {ls : List Text} (hhead : ∀ l ∈ ls.head?, isHeaderLine l = true) :
    match ls.find? isMalformed with
    | some l => ofLines ls = .error (.malformedHeader l)
    | none => ∃ hunks, ofLines ls = .ok hunks := by
  induction hn : ls.length using Nat.strongRecOn generalizing ls with
  | ind n ih =>
    subst hn
    cases ls with
    | nil => exact ⟨[], by rw [ofLines]⟩
    | cons line ls =>
      have hheader : isHeaderLine line = true := hhead line rfl
      cases hread : Header.read? line with
      | none =>
        have hbad : isMalformed line = true := by simp [isMalformed, hheader, hread]
        simpa [List.find?_cons, hbad] using ofLines_cons_of_malformed hread
      | some h =>
        have hgood : isMalformed line = false := by simp [isMalformed, hread]
        obtain ⟨body, rest, rfl, hbody, hrest⟩ := exists_block ls
        have hspec := ih rest.length (by rw [List.length_cons, List.length_append]; omega) hrest rfl
        rw [List.find?_cons, hgood, find?_malformed_append hbody,
          ofLines_cons_of_read hread hbody hrest]
        cases hfind : rest.find? isMalformed with
        | some l =>
          rw [hfind] at hspec
          simp only at hspec ⊢
          rw [hspec]
          rfl
        | none =>
          rw [hfind] at hspec
          obtain ⟨hunks, hok⟩ := hspec
          exact ⟨_, by rw [hok]; rfl⟩

end Hunk

namespace Patch

theorem parse_spec (patch : Text) :
    match patch.lines.find? Hunk.isMalformed with
    | some l => parse patch = .error (.malformedHeader l)
    | none => ∃ hunks, parse patch = .ok hunks := by
  obtain ⟨body, rest, hls, hbody, hrest⟩ := Hunk.exists_block patch.lines
  have hdrop : patch.lines.dropWhile (! Hunk.isHeaderLine ·) = rest := by
    have htake := congrArg Prod.snd (Hunk.takeBody_append hbody hrest)
    rwa [← hls] at htake
  rw [parse, hdrop, hls, Hunk.find?_malformed_append hbody]
  exact Hunk.ofLines_spec hrest

/-- Reading fails exactly when a line begins like a header and is none. -/
theorem parse_fails_iff (patch : Text) :
    (∃ e, parse patch = .error e) ↔ ∃ l ∈ patch.lines, Hunk.isMalformed l = true := by
  have hspec := parse_spec patch
  cases hfind : patch.lines.find? Hunk.isMalformed with
  | some l =>
    rw [hfind] at hspec
    exact ⟨fun _ => ⟨l, List.mem_of_find?_eq_some hfind, List.find?_some hfind⟩,
      fun _ => ⟨_, hspec⟩⟩
  | none =>
    rw [hfind] at hspec
    obtain ⟨hunks, hok⟩ := hspec
    constructor
    · rintro ⟨e, he⟩
      rw [hok] at he
      contradiction
    · rintro ⟨l, hl, hbad⟩
      exact absurd hbad (by simpa using List.find?_eq_none.mp hfind l hl)

theorem not_malformed_of_parse {patch : Text} {hunks : List Hunk}
    (h : parse patch = .ok hunks) : ∀ l ∈ patch.lines, Hunk.isMalformed l = false := by
  intro l hl
  by_contra hbad
  obtain ⟨e, he⟩ := (parse_fails_iff patch).mpr ⟨l, hl, by simpa using hbad⟩
  rw [h] at he
  cases he

end Patch
end DiffBudget
