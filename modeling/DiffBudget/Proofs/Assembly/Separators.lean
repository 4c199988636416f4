import DiffBudget.Proofs.Assembly.Independence
import DiffBudget.Proofs.Text.Joined

/-!
# What is printed and not charged

A counter of bytes or characters counts the parts of a text apart. Measured by such a counter, the
printed text costs what has been charged and the separators that were not: the line feeds between
the renderings, and for each list that is not empty one of the two line feeds in front of it, since
a line feed is charged behind its last name too, where none is printed.
-/
namespace DiffBudget

/-- The parts of a text are counted apart, and a line feed counts as one. -/
structure TokenCounter.Additive (count : TokenCounter) : Prop where
  append : ∀ s t, count (s ++ t) = count s + count t
  newline : count ['\n'] = 1

namespace TokenCounter

theorem additive_length : Additive List.length := ⟨fun _ _ => List.length_append, rfl⟩

theorem additive_byteCount : Additive Text.byteCount := ⟨sumOf_append Char.utf8Size, rfl⟩

variable {count : TokenCounter}

theorem Additive.nil (h : Additive count) : count [] = 0 := by
  have happend := h.append [] []
  rw [List.append_nil] at happend
  omega

theorem Additive.joinLines (h : Additive count) (ls : List Text) :
    count (Text.joinLines ls) = sumOf count ls + (ls.length - 1) := by
  induction ls with
  | nil => exact h.nil
  | cons l ls ih =>
    cases ls with
    | nil => simp
    | cons next ls =>
      have hnewline : count ('\n' :: Text.joinLines (next :: ls)) =
          1 + count (Text.joinLines (next :: ls)) := by
        rw [← h.newline, ← h.append]
        rfl
      rw [Text.joinLines_cons_cons, h.append, hnewline, ih]
      simp only [sumOf_cons, List.length_cons]
      omega

end TokenCounter

namespace Compression

variable {count : TokenCounter}

theorem count_listing (h : count.Additive) (heading : Text) (names : List Text) :
    count (listing heading names) =
      namesCost count heading names + if names = [] then 0 else 1 := by
  cases names with
  | nil => simp [listing, namesCost, h.nil]
  | cons name names =>
    have hfeeds : count "\n\n".toList = 2 := by
      have hparts := h.append ['\n'] ['\n']
      rw [h.newline] at hparts
      exact hparts
    have hprinted : listing heading (name :: names) =
        "\n\n".toList ++ heading ++ Text.joinLines (name :: names) := rfl
    rw [hprinted, h.append, h.append, hfeeds, h.joinLines, namesCost,
      if_neg (List.cons_ne_nil name names), if_neg (List.cons_ne_nil name names), List.length_cons]
    omega

end Compression

namespace Assembly

open Compression

variable {o : AssemblyOptions} {count : TokenCounter} {files : List FileChange}
  {promptTokens : Nat}

def shownTexts (o : AssemblyOptions) (count : TokenCounter) (files : List FileChange)
    (promptTokens : Nat) : List Text :=
  if (assemble o count files promptTokens).1.compressed then
    bodies (visits o count files promptTokens)
  else fullBodies o files

def charged (o : AssemblyOptions) (count : TokenCounter) (files : List FileChange)
    (promptTokens : Nat) : Nat :=
  sumOf count (shownTexts o count files promptTokens) +
    namesCost count modifiedHeading (assemble o count files promptTokens).1.summarized +
    namesCost count deletedHeading (assemble o count files promptTokens).1.deleted

theorem assemble_of_not_compressed
    (h : (assemble o count files promptTokens).1.compressed = false) :
    (assemble o count files promptTokens).1 = fullResult o count files promptTokens := by
  simp only [assemble, result] at h ⊢
  split at h
  · rename_i hwithin
    rw [if_pos hwithin]
  · cases h

theorem sumOf_fullCost (o : AssemblyOptions) (count : TokenCounter) (files : List FileChange) :
    sumOf (fullCost o count) (readyFiles files) = sumOf count (fullBodies o files) := by
  rw [fullBodies]
  induction readyFiles files with
  | nil => rfl
  | cons p ps ih => rw [List.map_cons, sumOf_cons, sumOf_cons, ih, fullCost]

theorem visitsCharge_eq (hcompressed : (assemble o count files promptTokens).1.compressed = true)
    (h : charged o count files promptTokens ≤ maxNumber) :
    visitsCharge count false false (visits o count files promptTokens) =
      charged o count files promptTokens := by
  have hcharged : charged o count files promptTokens =
      sumOf count (bodies (visits o count files promptTokens)) +
        namesCost count modifiedHeading
          (namesOf .summarized (visits o count files promptTokens)) +
        namesCost count deletedHeading (namesOf .deleted (visits o count files promptTokens)) := by
    rw [charged, shownTexts, if_pos hcompressed, assemble_of_compressed hcompressed]
    rfl
  rw [hcharged] at h ⊢
  rw [visitsCharge, namesCharge_eq (by omega), namesCharge_eq (by omega)]

theorem totalTokens_eq (h : promptTokens + charged o count files promptTokens ≤ maxNumber) :
    (assemble o count files promptTokens).1.totalTokens =
      promptTokens + charged o count files promptTokens := by
  have hprompt : promptTokens ≤ maxNumber := by omega
  cases hcompressed : (assemble o count files promptTokens).1.compressed with
  | true =>
    rw [assemble_of_compressed hcompressed, compressedResult_totalTokens hprompt,
      visitsCharge_eq hcompressed (by omega), saturatingAdd_of_le h]
  | false =>
    have hcharged : charged o count files promptTokens = sumOf count (fullBodies o files) := by
      rw [charged, shownTexts, if_neg (ne_true_of_eq_false hcompressed),
        assemble_of_not_compressed hcompressed]
      rfl
    rw [← saturatingAdd_of_le h, hcharged, assemble_of_not_compressed hcompressed,
      ← sumOf_fullCost]
    exact fullAccount_total hprompt

theorem text_eq (o : AssemblyOptions) (count : TokenCounter) (files : List FileChange)
    (promptTokens : Nat) :
    (assemble o count files promptTokens).1.text =
      Text.joinLines (shownTexts o count files promptTokens) ++
        listing modifiedHeading (assemble o count files promptTokens).1.summarized ++
        listing deletedHeading (assemble o count files promptTokens).1.deleted := by
  cases hcompressed : (assemble o count files promptTokens).1.compressed with
  | true =>
    rw [shownTexts, if_pos hcompressed, assemble_of_compressed hcompressed]
    rfl
  | false =>
    rw [shownTexts, if_neg (ne_true_of_eq_false hcompressed),
      assemble_of_not_compressed hcompressed]
    simp [fullResult, listing, fullBodies]

/-- By an additive counter the prompt and the printed text cost the total of the run, the line
feeds between the shown renderings, and one more for each list that is not empty, unless the total
stops at the largest number. -/
theorem account_matches_text (hcount : count.Additive)
    (hexact : promptTokens + charged o count files promptTokens ≤ maxNumber) :
    let r := (assemble o count files promptTokens).1
    promptTokens + count r.text = r.totalTokens +
      ((shownTexts o count files promptTokens).length - 1) +
      (if r.summarized = [] then 0 else 1) + (if r.deleted = [] then 0 else 1) := by
  intro r
  have htotal : r.totalTokens = promptTokens + charged o count files promptTokens :=
    totalTokens_eq hexact
  have htext : count r.text =
      sumOf count (shownTexts o count files promptTokens) +
        ((shownTexts o count files promptTokens).length - 1) +
        (namesCost count modifiedHeading r.summarized + if r.summarized = [] then 0 else 1) +
        (namesCost count deletedHeading r.deleted + if r.deleted = [] then 0 else 1) := by
    rw [← count_listing hcount, ← count_listing hcount, ← hcount.joinLines, ← hcount.append,
      ← hcount.append]
    exact congrArg count (text_eq o count files promptTokens)
  rw [htotal, htext]
  change _ = promptTokens + (sumOf count (shownTexts o count files promptTokens) +
    namesCost count modifiedHeading r.summarized + namesCost count deletedHeading r.deleted) +
    _ + _ + _
  omega

/-- One rendering and one name in either list, so two line feeds that are not charged. -/
theorem account_matches_text_of_ordered :
    TokenCounter.Additive List.length ∧
      7 + charged Sample.options List.length Sample.ordered 7 ≤ maxNumber ∧
      (assemble Sample.options List.length Sample.ordered 7).1.summarized = ["a".toList] ∧
      (assemble Sample.options List.length Sample.ordered 7).1.deleted = ["b".toList] ∧
      7 + (assemble Sample.options List.length Sample.ordered 7).1.text.length =
        (assemble Sample.options List.length Sample.ordered 7).1.totalTokens + 2 := by
  let r := (assemble Sample.options List.length Sample.ordered 7).1
  have hr : r = compressedResult Sample.options List.length Sample.ordered 7 :=
    assemble_of_compressed Sample.ordered_compressed
  have hshown : shownTexts Sample.options List.length Sample.ordered 7 =
      ["## a\n\n@@ -1 +1 @@\n-x\n+y\n".toList] := by
    rw [shownTexts, if_pos Sample.ordered_compressed, Sample.ordered_visits]
    decide +kernel
  have hsummarized : r.summarized = ["a".toList] := by
    rw [hr, compressedResult_summarized, Sample.ordered_visits]
    decide +kernel
  have hdeleted : r.deleted = ["b".toList] := by
    rw [hr, compressedResult_deleted, Sample.ordered_visits]
    decide +kernel
  have hexact : 7 + charged Sample.options List.length Sample.ordered 7 ≤ maxNumber := by
    rw [charged, hshown, hsummarized, hdeleted]
    decide
  have hcount : 7 + r.text.length = r.totalTokens +
      ((shownTexts Sample.options List.length Sample.ordered 7).length - 1) +
      (if r.summarized = [] then 0 else 1) + (if r.deleted = [] then 0 else 1) :=
    account_matches_text TokenCounter.additive_length hexact
  rw [hshown, hsummarized, hdeleted] at hcount
  exact ⟨TokenCounter.additive_length, hexact, hsummarized, hdeleted, hcount⟩

end Assembly
end DiffBudget
