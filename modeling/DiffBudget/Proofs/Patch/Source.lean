import DiffBudget.Proofs.Patch.LineByLine

/-!
# The lines from which body lines are read

A body line of a hunk is read from one line of the patch: what stands before it is read as the
hunks before this one and this one up to the line. Each line of the patch that is neither a header
nor a remark is the source of a body line, once a header stands before it.
-/
namespace DiffBudget

theorem BodyLine.inNew_ofMarked (line : Text) :
    (BodyLine.ofMarked line).inNew = (line.head? != some '-') := by
  unfold BodyLine.ofMarked
  split
  · rfl
  · rfl
  · rfl
  · rename_i hplus hminus hspace
    cases line with
    | nil => rfl
    | cons c t =>
      have hc : c ≠ '-' := fun hc => hminus t (hc ▸ rfl)
      have hhead : (some c != some '-') = true := by simpa using hc
      exact hhead.symm

namespace Patch

open Hunk (isHeaderLine isRemark)

variable {ls : List Text} {hunks : List Hunk} {position : Nat} {line : Text}

/-- The line of the patch at this position adds the body line `l` behind `front` to the hunk, which
has the hunks `before` in front of it. -/
structure ReadAt (ls : List Text) (position : Nat) (before : List Hunk) (h : Hunk)
    (front : List BodyLine) (l : BodyLine) : Prop where
  line : ls[position]?.map BodyLine.ofMarked = some l
  begun : readLines (ls.take position) = .ok (before ++ [{ h with body := front }])
  grown : readLines (ls.take (position + 1)) = .ok (before ++ [{ h with body := front ++ [l] }])

def IsSource (ls : List Text) (hunks : List Hunk) (position : Nat) (h : Hunk)
    (front : List BodyLine) (l : BodyLine) : Prop :=
  ∃ before after back, hunks = before ++ h :: after ∧ h.body = front ++ l :: back ∧
    ReadAt ls position before h front l

theorem take_add_one_of_getElem? (h : ls[position]? = some line) :
    ls.take (position + 1) = ls.take position ++ [line] := by
  rw [List.take_add_one, h]
  rfl

theorem readLines_take_add_one {before : List Hunk} (hget : ls[position]? = some line)
    (hbefore : readLines (ls.take position) = .ok before) :
    readLines (ls.take (position + 1)) = readLine before line := by
  rw [take_add_one_of_getElem? hget, readLines_concat, hbefore]
  rfl

theorem isSource_of_line (hread : readLines ls = .ok hunks) (hget : ls[position]? = some line)
    (hheader : isHeaderLine line = false) (hremark : isRemark line = false)
    {before : List Hunk} {g : Hunk} (hbefore : readLines (ls.take position) = .ok (before ++ [g])) :
    ∃ back, IsSource ls hunks position { g with body := g.body ++ .ofMarked line :: back } g.body
      (.ofMarked line) := by
  have hnext : readLines (ls.take (position + 1)) = .ok (before ++ [g.push line]) := by
    rw [readLines_take_add_one hget hbefore, readLine_body hheader hremark, List.modifyLast_concat]
  have hrest := readLines_append (ls.take (position + 1)) (ls.drop (position + 1))
  rw [List.take_append_drop, hread, hnext] at hrest
  obtain ⟨back, after, hgrown⟩ := foldlM_readLine_grows hrest.symm
  refine ⟨back, before, after, back, ?_, rfl, by rw [hget]; rfl, hbefore, hnext⟩
  rw [hgrown, Hunk.push, List.append_assoc]
  rfl

theorem IsSource.read {h : Hunk} {front : List BodyLine} {l : BodyLine}
    (hsource : IsSource ls hunks position h front l) (hget : ls[position]? = some line) :
    isHeaderLine line = false ∧ isRemark line = false ∧ l = .ofMarked line := by
  obtain ⟨before, -, -, -, -, hline, hbegun, hgrown⟩ := hsource
  rw [hget] at hline
  rw [readLines_take_add_one hget hbegun] at hgrown
  rcases readLine_cases hgrown with ⟨header, hmore⟩ | ⟨-, -, hsame⟩ | ⟨hheader, hremark, -⟩
  · have hlength := congrArg List.length hmore
    simp at hlength
  · have hlast := List.append_cancel_left hsame
    simp at hlast
  · exact ⟨hheader, hremark, (Option.some.inj hline).symm⟩

theorem IsSource.unique {g h : Hunk} {front front' : List BodyLine} {l l' : BodyLine}
    (hsource : IsSource ls hunks position h front l)
    (hother : IsSource ls hunks position g front' l') : h = g ∧ front = front' ∧ l = l' := by
  obtain ⟨before, after, back, rfl, hbody, hline, hbegun, -⟩ := hsource
  obtain ⟨before', after', back', hsplit, -, hline', hbegun', -⟩ := hother
  obtain ⟨rfl, hlast⟩ := List.append_inj' (Except.ok.inj (hbegun.symm.trans hbegun')) rfl
  obtain ⟨rfl, -⟩ := List.cons_eq_cons.mp (List.append_cancel_left hsplit)
  have hfront : front = front' := congrArg Hunk.body (List.singleton_inj.mp hlast)
  exact ⟨rfl, hfront, Option.some.inj (hline.symm.trans hline')⟩

theorem concat_eq_append_cons {α : Type} {front before after : List α} {last a : α}
    (h : front ++ [last] = before ++ a :: after) :
    after = [] ∧ front = before ∧ last = a ∨
      ∃ rest, after = rest ++ [last] ∧ front = before ++ a :: rest := by
  rcases List.eq_nil_or_concat' after with rfl | ⟨rest, b, rfl⟩
  · obtain ⟨hfront, hlast⟩ := List.append_inj' h rfl
    exact .inl ⟨rfl, hfront, List.singleton_inj.mp hlast⟩
  · rw [← List.cons_append, ← List.append_assoc] at h
    obtain ⟨hfront, hlast⟩ := List.append_inj' h rfl
    obtain rfl := List.singleton_inj.mp hlast
    exact .inr ⟨rest, rfl, hfront⟩

section ReadAt

variable {before after : List Hunk} {h : Hunk} {front back : List BodyLine} {l : BodyLine}

theorem ReadAt.append (hread : ReadAt ls position before h front l) (more : List Text) :
    ReadAt (ls ++ more) position before h front l := by
  have hlt : position < ls.length := by
    by_contra hle
    have hline := hread.line
    rw [List.getElem?_eq_none (Nat.le_of_not_lt hle)] at hline
    cases hline
  refine ⟨?_, ?_, ?_⟩
  · rw [List.getElem?_append_left hlt]
    exact hread.line
  · rw [List.take_append_of_le_length (Nat.le_of_lt hlt)]
    exact hread.begun
  · rw [List.take_append_of_le_length hlt]
    exact hread.grown

theorem readAt_push {g : Hunk} (hprev : readLines ls = .ok (before ++ [g]))
    (hread : readLines (ls ++ [line]) = .ok (before ++ [g.push line])) :
    ReadAt (ls ++ [line]) ls.length before (g.push line) g.body (.ofMarked line) := by
  refine ⟨?_, ?_, ?_⟩
  · rw [List.getElem?_concat_length]
    rfl
  · rw [List.take_left]
    exact hprev
  · rw [List.take_of_length_le (by simp)]
    exact hread

theorem exists_readAt (hread : readLines ls = .ok hunks) (hsplit : hunks = before ++ h :: after)
    (hbody : h.body = front ++ l :: back) : ∃ position, ReadAt ls position before h front l := by
  -- the last line is the source, unless the body line is there before it is read
  induction ls using List.reverseRecOn generalizing hunks h after back with
  | nil =>
    rw [readLines_nil, hsplit] at hread
    exact absurd (Except.ok.inj hread).symm (by simp)
  | append_singleton ls line ih =>
    have hline := hread
    rw [readLines_concat] at hline
    cases hprev : readLines ls with
    | error e =>
      rw [hprev] at hline
      cases hline
    | ok prev =>
      rw [hprev] at hline
      have hearlier : ∀ {h after back}, prev = before ++ h :: after → h.body = front ++ l :: back →
          ∃ position, ReadAt (ls ++ [line]) position before h front l := by
        intro h after back hsplit hbody
        obtain ⟨position, hat⟩ := ih hprev hsplit hbody
        exact ⟨position, hat.append [line]⟩
      rcases readLine_cases hline with ⟨header, rfl⟩ | ⟨-, -, rfl⟩ | ⟨-, -, hpush⟩
      · rcases concat_eq_append_cons hsplit with ⟨-, -, rfl⟩ | ⟨rest, -, hrest⟩
        · simp [Hunk.ofHeader] at hbody
        · exact hearlier hrest hbody
      · exact hearlier hsplit hbody
      · rcases List.eq_nil_or_concat' prev with rfl | ⟨prev, g, rfl⟩
        · rw [hpush] at hsplit
          exact absurd hsplit.symm (by simp [List.modifyLast, List.modifyLast.go])
        · rw [List.modifyLast_concat] at hpush
          subst hpush
          rcases concat_eq_append_cons hsplit with ⟨-, rfl, rfl⟩ | ⟨rest, -, rfl⟩
          · rcases concat_eq_append_cons hbody with ⟨-, rfl, rfl⟩ | ⟨rest, -, hbefore⟩
            · exact ⟨ls.length, readAt_push hprev hread⟩
            · obtain ⟨position, hat⟩ := hearlier rfl hbefore
              exact ⟨position, hat.line, hat.begun, hat.grown⟩
          · exact hearlier (List.append_assoc _ _ _) hbody

end ReadAt

theorem exists_isSource (hread : readLines ls = .ok hunks) {h : Hunk} (hh : h ∈ hunks)
    {front back : List BodyLine} {l : BodyLine} (hbody : h.body = front ++ l :: back) :
    ∃ position, IsSource ls hunks position h front l := by
  obtain ⟨before, after, hsplit⟩ := List.append_of_mem hh
  obtain ⟨position, hat⟩ := exists_readAt hread hsplit hbody
  exact ⟨position, before, after, back, hsplit, hbody, hat⟩

end Patch
end DiffBudget
