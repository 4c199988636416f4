import DiffBudget.Proofs.Patch.Reading
import Mathlib.Data.List.Induction
import Mathlib.Data.List.ModifyLast

/-!
# A patch is read line by line

A patch is cut into its hunks, but it can as well be read from its first line to its last: a
header begins a hunk, a remark changes nothing, and any other line belongs to the last hunk, or to
none before the first header.
-/
namespace DiffBudget

namespace Hunk

def push (h : Hunk) (line : Text) : Hunk := { h with body := h.body ++ [.ofMarked line] }

theorem ofLines_nil : ofLines [] = .ok [] := by rw [ofLines]

theorem ofLines_singleton {line : Text} {h : Header} (hread : Header.read? line = some h) :
    ofLines [line] = .ok [ofHeader h line []] := by
  have hsingle : ofLines (line :: ([] ++ [])) = _ := ofLines_cons_of_read hread (by simp) (by simp)
  rwa [List.nil_append, ofLines_nil] at hsingle

theorem ofLines_cons_ne_nil {line : Text} {ls : List Text} {hunks : List Hunk}
    (h : ofLines (line :: ls) = .ok hunks) : hunks ≠ [] := by
  rw [ofLines] at h
  rintro rfl
  cases hparse : Header.parse line with
  | error e => simp [hparse, bind, Except.bind] at h
  | ok header =>
    cases hrest : ofLines (takeBody ls).2 <;>
      simp [hparse, hrest, bind, Except.bind, pure, Except.pure] at h

end Hunk

namespace Patch

open Hunk (isHeaderLine isRemark)

def readLine (hunks : List Hunk) (line : Text) : Except FileFault (List Hunk) :=
  if isHeaderLine line then
    (Hunk.Header.parse line).map fun h => hunks ++ [Hunk.ofHeader h line []]
  else if isRemark line then .ok hunks
  else .ok (hunks.modifyLast (·.push line))

def readLines (ls : List Text) : Except FileFault (List Hunk) :=
  Hunk.ofLines (ls.dropWhile (! isHeaderLine ·))

section ReadLine

variable {line : Text}

theorem readLine_header {h : Hunk.Header} (hheader : isHeaderLine line = true)
    (hread : Hunk.Header.read? line = some h) (hunks : List Hunk) :
    readLine hunks line = .ok (hunks ++ [Hunk.ofHeader h line []]) := by
  rw [readLine, if_pos hheader, Hunk.Header.parse_eq_ok.mpr hread]
  rfl

theorem readLine_malformed (hheader : isHeaderLine line = true)
    (hread : Hunk.Header.read? line = none) (hunks : List Hunk) :
    readLine hunks line = .error (.malformedHeader line) := by
  rw [readLine, if_pos hheader, Hunk.Header.parse, hread]
  rfl

theorem readLine_remark (hheader : isHeaderLine line = false) (hremark : isRemark line = true)
    (hunks : List Hunk) : readLine hunks line = .ok hunks := by
  rw [readLine, if_neg (Bool.not_eq_true _ ▸ hheader), if_pos hremark]

theorem readLine_body (hheader : isHeaderLine line = false) (hremark : isRemark line = false)
    (hunks : List Hunk) : readLine hunks line = .ok (hunks.modifyLast (·.push line)) := by
  rw [readLine, if_neg (Bool.not_eq_true _ ▸ hheader), if_neg (Bool.not_eq_true _ ▸ hremark)]

theorem readLine_nil (hheader : isHeaderLine line = false) : readLine [] line = .ok [] := by
  rw [readLine, if_neg (Bool.not_eq_true _ ▸ hheader)]
  split <;> rfl

theorem readLine_cons {h : Hunk} {hunks : List Hunk} (hne : hunks ≠ []) (line : Text) :
    readLine (h :: hunks) line = (readLine hunks line).map (h :: ·) := by
  unfold readLine
  split
  · cases Hunk.Header.parse line <;> rfl
  · split
    · rfl
    · exact congrArg Except.ok (List.modifyLast_append_of_right_ne_nil _ [h] hunks hne)

end ReadLine

theorem ofLines_concat {first : Text} {ls : List Text} (hfirst : isHeaderLine first = true)
    (line : Text) : Hunk.ofLines (first :: ls ++ [line]) =
      (Hunk.ofLines (first :: ls)).bind (readLine · line) := by
  induction hn : ls.length using Nat.strongRecOn generalizing first ls with
  | ind n ih =>
    subst hn
    cases hread : Hunk.Header.read? first with
    | none =>
      rw [List.cons_append, Hunk.ofLines_cons_of_malformed hread,
        Hunk.ofLines_cons_of_malformed hread]
      rfl
    | some h =>
      obtain ⟨body, rest, rfl, hbody, hrest⟩ := Hunk.exists_block ls
      rw [Hunk.ofLines_cons_of_read hread hbody hrest, List.cons_append, List.append_assoc]
      cases rest with
      | cons next rest =>
        -- the line is read with the hunks behind this one
        have hnext : isHeaderLine next = true := hrest next rfl
        rw [Hunk.ofLines_cons_of_read hread hbody (by simpa using hnext),
          ih rest.length (by simp; omega) hnext rfl]
        cases hhunks : Hunk.ofLines (next :: rest) with
        | error e => rfl
        | ok hunks => exact (readLine_cons (Hunk.ofLines_cons_ne_nil hhunks) line).symm
      | nil =>
        rw [List.nil_append, Hunk.ofLines_nil]
        change _ = readLine [Hunk.ofHeader h first _] line
        cases hline : isHeaderLine line with
        | true =>
          rw [Hunk.ofLines_cons_of_read hread hbody (by simpa using hline)]
          cases hlast : Hunk.Header.read? line with
          | none =>
            rw [Hunk.ofLines_cons_of_malformed hlast, readLine_malformed hline hlast]
            rfl
          | some last =>
            rw [Hunk.ofLines_singleton hlast, readLine_header hline hlast]
            rfl
        | false =>
          have hboth : ∀ l ∈ body ++ [line], isHeaderLine l = false := by
            simpa [or_imp, forall_and, hline] using hbody
          have hmore : Hunk.ofLines (first :: (body ++ [line] ++ [])) = _ :=
            Hunk.ofLines_cons_of_read hread hboth (by simp)
          rw [List.append_nil, Hunk.ofLines_nil] at hmore
          rw [hmore, List.filter_append]
          cases hremark : isRemark line with
          | true =>
            rw [readLine_remark hline hremark]
            simp [hremark, Except.map]
          | false =>
            have hpush := List.modifyLast_concat (·.push line)
              (Hunk.ofHeader h first ((body.filter (! isRemark ·)).map .ofMarked)) []
            rw [List.nil_append] at hpush
            rw [readLine_body hline hremark, hpush]
            simp [hremark, Except.map, Hunk.push, Hunk.ofHeader]

theorem readLines_nil : readLines [] = .ok [] := by
  rw [readLines, List.dropWhile_nil, Hunk.ofLines_nil]

theorem readLines_concat (ls : List Text) (line : Text) :
    readLines (ls ++ [line]) = (readLines ls).bind (readLine · line) := by
  obtain ⟨body, rest, rfl, hbody, hrest⟩ := Hunk.exists_block ls
  have hdrop : ∀ ls : List Text, (∀ l ∈ ls.head?, isHeaderLine l = true) →
      (body ++ ls).dropWhile (! isHeaderLine ·) = ls := fun ls hls =>
    congrArg Prod.snd (Hunk.takeBody_append hbody hls)
  rw [readLines, readLines, hdrop rest hrest, List.append_assoc]
  cases rest with
  | cons first rest =>
    have hfirst : isHeaderLine first = true := hrest first rfl
    rw [hdrop _ (by simpa using hfirst), ofLines_concat hfirst]
  | nil =>
    rw [List.nil_append, Hunk.ofLines_nil]
    change _ = readLine [] line
    cases hline : isHeaderLine line with
    | true =>
      rw [hdrop [line] (by simpa using hline)]
      cases hread : Hunk.Header.read? line with
      | none => rw [Hunk.ofLines_cons_of_malformed hread, readLine_malformed hline hread]
      | some h => rw [Hunk.ofLines_singleton hread, readLine_header hline hread, List.nil_append]
    | false =>
      have hnone : (body ++ [line]).dropWhile (! isHeaderLine ·) = [] := by
        simpa [List.dropWhile_eq_nil_iff, or_imp, forall_and, hline] using hbody
      rw [hnone, Hunk.ofLines_nil, readLine_nil hline]

theorem readLines_eq_foldlM (ls : List Text) : readLines ls = ls.foldlM readLine [] := by
  induction ls using List.reverseRecOn with
  | nil => exact readLines_nil
  | append_singleton ls line ih =>
    rw [readLines_concat, List.foldlM_append, ih]
    cases ls.foldlM readLine [] with
    | error e => rfl
    | ok hunks =>
      cases hline : readLine hunks line <;> simp [Except.bind, bind, pure, Except.pure, hline]

theorem readLines_append (front back : List Text) :
    readLines (front ++ back) = (readLines front).bind (back.foldlM readLine ·) := by
  rw [readLines_eq_foldlM, readLines_eq_foldlM, List.foldlM_append]
  rfl

theorem readLine_cases {hunks next : List Hunk} {line : Text}
    (h : readLine hunks line = .ok next) :
    (∃ header, next = hunks ++ [Hunk.ofHeader header line []]) ∨
      isHeaderLine line = false ∧ isRemark line = true ∧ next = hunks ∨
      isHeaderLine line = false ∧ isRemark line = false ∧
        next = hunks.modifyLast (·.push line) := by
  cases hheader : isHeaderLine line with
  | true =>
    cases hread : Hunk.Header.read? line with
    | none =>
      rw [readLine_malformed hheader hread] at h
      cases h
    | some header =>
      rw [readLine_header hheader hread] at h
      exact .inl ⟨header, (Except.ok.inj h).symm⟩
  | false =>
    cases hremark : isRemark line with
    | true =>
      rw [readLine_remark hheader hremark] at h
      exact .inr (.inl ⟨rfl, rfl, (Except.ok.inj h).symm⟩)
    | false =>
      rw [readLine_body hheader hremark] at h
      exact .inr (.inr ⟨rfl, rfl, (Except.ok.inj h).symm⟩)

/-- Further lines leave the hunks alone, but the last one, whose body may grow. -/
theorem foldlM_readLine_grows {before hunks : List Hunk} {g : Hunk} {ls : List Text}
    (h : ls.foldlM readLine (before ++ [g]) = .ok hunks) :
    ∃ back after, hunks = before ++ { g with body := g.body ++ back } :: after := by
  induction ls generalizing before g with
  | nil =>
    refine ⟨[], [], ?_⟩
    rw [List.append_nil]
    exact (Except.ok.inj h).symm
  | cons line ls ih =>
    rw [List.foldlM_cons] at h
    cases hline : readLine (before ++ [g]) line with
    | error e =>
      rw [hline] at h
      cases h
    | ok next =>
      rw [hline] at h
      rcases readLine_cases hline with ⟨header, rfl⟩ | ⟨-, -, rfl⟩ | ⟨-, -, hpush⟩
      · obtain ⟨back, after, rfl⟩ := ih h
        refine ⟨[], { Hunk.ofHeader header line [] with body := [] ++ back } :: after, ?_⟩
        rw [List.append_nil, List.append_assoc]
        rfl
      · exact ih h
      · rw [List.modifyLast_concat] at hpush
        subst hpush
        obtain ⟨back, after, rfl⟩ := ih h
        refine ⟨.ofMarked line :: back, after, ?_⟩
        rw [Hunk.push, List.append_assoc]
        rfl

end Patch
end DiffBudget
