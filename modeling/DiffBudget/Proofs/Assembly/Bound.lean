import DiffBudget.Proofs.Assembly.Accounting

/-!
# How far a compressed run can go

Names of deleted files are listed whatever they cost. All else that a visit charges is guarded: a
file is shown when it leaves the soft reserve free, and named when the total has not yet gone into
the hard one. So the total never passes the larger of the two thresholds, where the second may be
passed by one name and the heading of its list, by more than the deleted files cost. At a shown
file all that has been charged lies below the soft reserve.
-/
namespace DiffBudget

namespace Account

theorem charge_total_le_add (a : Account) (n : Nat) : (a.charge n).total ≤ a.total + n :=
  Nat.min_le_left _ _

theorem charge_total_le_of_admits {a : Account} {n : Nat} (h : a.admits n = true) :
    (a.charge n).total ≤ a.limit - a.softReserve :=
  of_decide_eq_true h

theorem total_le_of_not_pastHardFloor {a : Account} (h : a.pastHardFloor = false) :
    a.total ≤ a.limit - a.hardReserve :=
  Nat.le_of_not_lt (of_decide_eq_false h)

/-- The bound leaves the soft reserve free, and room for an entry below the hard one. -/
structure Guards (a : Account) (entry bound : Nat) : Prop where
  soft : a.limit - a.softReserve ≤ bound
  hard : a.limit - a.hardReserve + entry ≤ bound

end Account

namespace Compression

variable {o : AssemblyOptions} {count : TokenCounter}

/-- What the dearest of the names costs when it begins the list of modified files; nothing for no
names. -/
def dearestListing (count : TokenCounter) (names : List Text) : Nat :=
  match (names.map (entryCost count)).max? with
  | some cost => count modifiedHeading + cost
  | none => 0

theorem listing_le_dearest {names : List Text} {name : Text} (h : name ∈ names) :
    count modifiedHeading + entryCost count name ≤ dearestListing count names := by
  have hmem := List.mem_map_of_mem (f := entryCost count) h
  unfold dearestListing
  cases hmax : (names.map (entryCost count)).max? with
  | none =>
    rw [List.max?_eq_none_iff.mp hmax] at hmem
    cases hmem
  | some cost =>
    exact Nat.add_le_add_left ((List.max?_eq_some_iff.mp hmax).2 _ hmem) _

theorem listCharge_le (count : TokenCounter) (heading name : Text) (begun : Bool) :
    listCharge count heading name begun ≤ count heading + entryCost count name := by
  cases begun <;> simp [listCharge]

theorem namesCharge_append_le (count : TokenCounter) (heading : Text) (begun : Bool)
    (front back : List Text) :
    namesCharge count heading begun front ≤ namesCharge count heading begun (front ++ back) := by
  induction front generalizing begun with
  | nil => simp [namesCharge]
  | cons name front ih =>
    rw [List.cons_append, namesCharge_cons, namesCharge_cons]
    exact Nat.add_le_add_left (ih true) _

@[simp] theorem namesCharge_nil (heading : Text) (begun : Bool) :
    namesCharge count heading begun [] = 0 := by
  simp [namesCharge]

@[simp] theorem namesOf_nil (outcome : Outcome) : namesOf outcome [] = [] := rfl

@[simp] theorem bodies_append (front back : List (PreparedFile × Outcome)) :
    bodies (front ++ back) = bodies front ++ bodies back :=
  List.filterMap_append

@[simp] theorem namesOf_append (outcome : Outcome) (front back : List (PreparedFile × Outcome)) :
    namesOf outcome (front ++ back) = namesOf outcome front ++ namesOf outcome back := by
  simp [namesOf]

theorem visitsCharge_rendered_le (count : TokenCounter) (front back : List (PreparedFile × Outcome))
    (p : PreparedFile) (text : Text) :
    visitsCharge count false false front + count text ≤
      visitsCharge count false false (front ++ (p, .rendered text) :: back) := by
  have hmodified := namesCharge_append_le count modifiedHeading false
    (namesOf .summarized front) (namesOf .summarized ((p, .rendered text) :: back))
  have hdeleted := namesCharge_append_le count deletedHeading false
    (namesOf .deleted front) (namesOf .deleted ((p, .rendered text) :: back))
  simp only [visitsCharge, bodies_append, namesOf_append, bodies_cons, sumOf_append,
    List.singleton_append, sumOf_cons]
  omega

theorem visit_reserves (o : AssemblyOptions) (count : TokenCounter) (s : State) (p : PreparedFile) :
    (visit o count s p).2.account.limit = s.account.limit ∧
      (visit o count s p).2.account.softReserve = s.account.softReserve ∧
      (visit o count s p).2.account.hardReserve = s.account.hardReserve := by
  rcases visit_cases o count s p with ⟨-, hv⟩ | ⟨text, -, ⟨-, hv⟩ | ⟨-, -, hv⟩ | ⟨-, -, hv⟩⟩ <;>
    simp [hv, list_eq]

theorem visit_deletedCharge (s : State) (p : PreparedFile)
    (visits : List (PreparedFile × Outcome)) :
    namesCharge count deletedHeading s.deletedBegun
        (namesOf .deleted ((p, (visit o count s p).1) :: visits)) =
      namesCharge count deletedHeading s.deletedBegun
          (namesOf .deleted [(p, (visit o count s p).1)]) +
        namesCharge count deletedHeading (visit o count s p).2.deletedBegun
          (namesOf .deleted visits) := by
  rcases visit_cases o count s p with ⟨-, hv⟩ | ⟨text, -, ⟨-, hv⟩ | ⟨-, -, hv⟩ | ⟨-, -, hv⟩⟩ <;>
    simp [hv, namesOf_cons, namesCharge_cons]

theorem visit_guards {s : State} {entry bound : Nat} (h : s.account.Guards entry bound)
    (p : PreparedFile) : (visit o count s p).2.account.Guards entry bound := by
  obtain ⟨hlimit, hsoft, hhard⟩ := visit_reserves o count s p
  constructor
  · rw [hlimit, hsoft]
    exact h.soft
  · rw [hlimit, hhard]
    exact h.hard

/-- A visit passes the bound by no more than it charges for a deleted file. -/
theorem visit_total_bounded {s : State} {entry bound spent : Nat}
    (h : s.account.Guards entry bound) (htotal : s.account.total ≤ bound + spent)
    (p : PreparedFile) (hentry : ∀ name ∈ namesOf .summarized [(p, (visit o count s p).1)],
      count modifiedHeading + entryCost count name ≤ entry) :
    (visit o count s p).2.account.total ≤ bound + (spent +
      namesCharge count deletedHeading s.deletedBegun
        (namesOf .deleted [(p, (visit o count s p).1)])) := by
  rcases visit_cases o count s p with
    ⟨-, hv⟩ | ⟨text, -, ⟨-, hv⟩ | ⟨-, hadmits, hv⟩ | ⟨hpast, -, hv⟩⟩ <;> rw [hv] at hentry ⊢
  · -- the one charge that no reserve guards
    have hcharge := s.account.charge_total_le_add
      (listCharge count deletedHeading p.change.filename s.deletedBegun)
    simp only [list_eq, namesOf_cons, if_true, namesOf_nil, List.append_nil, namesCharge_cons,
      namesCharge_nil, Nat.add_zero]
    omega
  · exact Nat.le_trans htotal (Nat.add_le_add_left (Nat.le_add_right _ _) _)
  · have hshown := Account.charge_total_le_of_admits hadmits
    exact Nat.le_trans hshown (Nat.le_trans h.soft (Nat.le_add_right _ _))
  · have hname := hentry p.change.filename (by simp [namesOf])
    have hcharge := s.account.charge_total_le_add
      (listCharge count modifiedHeading p.change.filename s.modifiedBegun)
    have hlist := listCharge_le count modifiedHeading p.change.filename s.modifiedBegun
    have hfloor := Account.total_le_of_not_pastHardFloor hpast
    have hhard := h.hard
    simp only [list_eq]
    omega

theorem visitAll_total_bounded {s : State} {entry bound spent : Nat}
    (h : s.account.Guards entry bound) (htotal : s.account.total ≤ bound + spent)
    (ps : List PreparedFile) (hentry : ∀ name ∈ namesOf .summarized (visitAll o count s ps).1,
      count modifiedHeading + entryCost count name ≤ entry) :
    (visitAll o count s ps).2.account.total ≤ bound + (spent +
      namesCharge count deletedHeading s.deletedBegun
        (namesOf .deleted (visitAll o count s ps).1)) := by
  induction ps generalizing s spent with
  | nil => simpa [visitAll] using htotal
  | cons p ps ih =>
    simp only [visitAll] at hentry ⊢
    rw [namesOf_cons] at hentry
    have hfirst := visit_total_bounded h htotal p fun name hname =>
      hentry name (List.mem_append_left _ (by simpa [namesOf_cons] using hname))
    have hrest := ih (visit_guards h p) hfirst fun name hname =>
      hentry name (List.mem_append_right _ hname)
    rw [visit_deletedCharge]
    omega

theorem admits_of_rendered {a : Account} {p : PreparedFile} {text : Text}
    (h : outcomeOf o count a p = .rendered text) : a.admits (count text) = true := by
  have hshort := shortText?_of_rendered h
  rw [outcomeOf, hshort] at h
  simp only at h
  split_ifs at h with hpast hadmits
  exact hadmits

theorem exists_last_body {visits : List (PreparedFile × Outcome)} (h : bodies visits ≠ []) :
    ∃ front p text back, visits = front ++ (p, .rendered text) :: back ∧ bodies back = [] := by
  induction visits with
  | nil => exact absurd rfl h
  | cons v visits ih =>
    by_cases hrest : bodies visits = []
    · obtain ⟨p, outcome⟩ := v
      rw [bodies_cons, hrest] at h
      cases outcome with
      | rendered text => exact ⟨[], p, text, visits, rfl, hrest⟩
      | summarized => exact absurd rfl h
      | deleted => exact absurd rfl h
      | skipped => exact absurd rfl h
    · obtain ⟨front, p, text, back, rfl, hback⟩ := ih hrest
      exact ⟨v :: front, p, text, back, rfl, hback⟩

theorem rendered_within_soft {s : State} {ps : List PreparedFile}
    {front back : List (PreparedFile × Outcome)} {p : PreparedFile} {text : Text}
    (hrun : (visitAll o count s ps).1 = front ++ (p, .rendered text) :: back)
    (hexact : s.account.total + visitsCharge count s.modifiedBegun s.deletedBegun front +
      count text ≤ maxNumber) :
    s.account.total + visitsCharge count s.modifiedBegun s.deletedBegun front + count text ≤
      s.account.limit - s.account.softReserve := by
  have htotal : s.account.total ≤ maxNumber := by omega
  have houtcome := visitAll_outcome htotal hrun
  have hadmits := admits_of_rendered houtcome.symm
  have hshown := Account.charge_total_le_of_admits hadmits
  simp only [Account.charge_charge, Account.charge_total, Account.charge_limit,
    Account.charge_softReserve] at hshown
  omega

end Compression

namespace Assembly

open Compression

variable {o : AssemblyOptions} {count : TokenCounter} {files : List FileChange}
  {promptTokens : Nat}

def visitedFiles (o : AssemblyOptions) (count : TokenCounter) (files : List FileChange) :
    List PreparedFile := largestFirst (measuredFiles o count files)

theorem visitedFiles_perm (o : AssemblyOptions) (count : TokenCounter)
    (files : List FileChange) : (visitedFiles o count files).Perm (readyFiles files) := by
  have hfiles : (measuredFiles o count files).map (·.file) = readyFiles files := by
    rw [measuredFiles, List.map_map]
    exact List.map_id _
  exact hfiles ▸ largestFirst_perm _

def visits (o : AssemblyOptions) (count : TokenCounter) (files : List FileChange)
    (promptTokens : Nat) : List (PreparedFile × Outcome) :=
  (run o count promptTokens (measuredFiles o count files)).1

theorem assemble_of_compressed (h : (assemble o count files promptTokens).1.compressed = true) :
    (assemble o count files promptTokens).1 = compressedResult o count files promptTokens := by
  simp only [assemble, result] at h ⊢
  split at h
  · cases h
  · rename_i hwithin
    rw [if_neg hwithin]

theorem compressedResult_totalTokens (hprompt : promptTokens ≤ maxNumber) :
    (compressedResult o count files promptTokens).totalTokens =
      saturatingAdd promptTokens
        (visitsCharge count false false (visits o count files promptTokens)) :=
  congrArg Account.total
    (visitAll_account (s := { account := .start o promptTokens }) hprompt
      (largestFirst (measuredFiles o count files)))

theorem compressedResult_text : (compressedResult o count files promptTokens).text =
    Compression.text (visits o count files promptTokens) := rfl

theorem compressedResult_skipped : (compressedResult o count files promptTokens).skipped =
    faultyNames files ++ namesOf .skipped (visits o count files promptTokens) := rfl

theorem compressedResult_summarized : (compressedResult o count files promptTokens).summarized =
    namesOf .summarized (visits o count files promptTokens) := rfl

theorem compressedResult_deleted : (compressedResult o count files promptTokens).deleted =
    namesOf .deleted (visits o count files promptTokens) := rfl

/-- The run ends below the larger threshold and the cost of the deleted files, and all that is
charged up to the last shown file leaves the soft reserve free. -/
structure KeepsBudget (o : AssemblyOptions) (count : TokenCounter) (promptTokens : Nat)
    (visits : List (PreparedFile × Outcome)) (r : Assembled) : Prop where
  total : r.totalTokens ≤
    max promptTokens (max (o.limit - o.softReserve)
      (o.limit - o.hardReserve + dearestListing count r.summarized)) +
    namesCharge count deletedHeading false r.deleted
  shown : bodies visits ≠ [] → ∃ front p text back,
    visits = front ++ (p, .rendered text) :: back ∧ bodies back = [] ∧
    promptTokens + sumOf count (bodies visits) +
        namesCharge count modifiedHeading false (namesOf .summarized front) +
        namesCharge count deletedHeading false (namesOf .deleted front) ≤
      o.limit - o.softReserve

/-- A compressed run keeps its budget unless its total stops at the largest number. -/
theorem compressed_keeps_budget
    (hcompressed : (assemble o count files promptTokens).1.compressed = true)
    (hexact : promptTokens +
      visitsCharge count false false (visits o count files promptTokens) ≤ maxNumber) :
    KeepsBudget o count promptTokens (visits o count files promptTokens)
      (assemble o count files promptTokens).1 := by
  let r := (assemble o count files promptTokens).1
  let s : State := { account := .start o promptTokens }
  have hr : r = compressedResult o count files promptTokens := assemble_of_compressed hcompressed
  refine ⟨?_, fun hbodies => ?_⟩
  · have hsummarized : r.summarized = namesOf .summarized (visits o count files promptTokens) := by
      rw [hr]
      rfl
    have hdeleted : r.deleted = namesOf .deleted (visits o count files promptTokens) := by
      rw [hr]
      rfl
    have hguards : s.account.Guards (dearestListing count r.summarized)
        (max promptTokens (max (o.limit - o.softReserve)
          (o.limit - o.hardReserve + dearestListing count r.summarized))) :=
      ⟨show o.limit - o.softReserve ≤ _ by omega, show o.limit - o.hardReserve + _ ≤ _ by omega⟩
    have hstart : s.account.total ≤ max promptTokens (max (o.limit - o.softReserve)
        (o.limit - o.hardReserve + dearestListing count r.summarized)) + 0 := Nat.le_max_left _ _
    have hbound := visitAll_total_bounded hguards hstart
      (largestFirst (measuredFiles o count files))
      fun name hname => listing_le_dearest (hsummarized ▸ hname)
    have htotal : r.totalTokens =
        (visitAll o count s (largestFirst (measuredFiles o count files))).2.account.total := by
      rw [hr]
      rfl
    rw [Nat.zero_add] at hbound
    rw [hdeleted, htotal]
    exact hbound
  · obtain ⟨front, p, text, back, hsplit, hback⟩ := exists_last_body hbodies
    have hlast : bodies (visits o count files promptTokens) = bodies front ++ [text] := by
      rw [hsplit, bodies_append, bodies_cons, hback]
      rfl
    have hprefix :
        promptTokens + visitsCharge count false false front + count text ≤ maxNumber := by
      have hpart := visitsCharge_rendered_le count front back p text
      rw [hsplit] at hexact
      omega
    have hwithin := rendered_within_soft (s := s) hsplit hprefix
    refine ⟨front, p, text, back, hsplit, hback, ?_⟩
    rw [hlast, sumOf_append, sumOf_cons, sumOf_nil]
    change promptTokens + visitsCharge count false false front + count text ≤
      o.limit - o.softReserve at hwithin
    rw [visitsCharge] at hwithin
    omega

theorem visits_of_ordered (h : (measuredFiles o count files).Pairwise fun a b => b.cost ≤ a.cost) :
    visits o count files promptTokens =
      (visitAll o count { account := .start o promptTokens } (readyFiles files)).1 := by
  have hsorted : (measuredFiles o count files).Pairwise fun a b =>
      decide (b.cost ≤ a.cost) = true := h.imp decide_eq_true
  have hfiles : (measuredFiles o count files).map (·.file) = readyFiles files := by
    rw [measuredFiles, List.map_map]
    exact List.map_id _
  rw [visits, run, largestFirst, List.mergeSort_of_pairwise hsorted, hfiles]

def Sample.ordered : List FileChange :=
  [{ filename := "a".toList, kind := .modified, patch := "@@ -1 +1 @@\n-x\n+y".toList },
    { filename := "a".toList, kind := .modified, patch := "@@ -1 +1 @@\n-x\n+y".toList },
    { filename := "b".toList, kind := .modified, patch := "@@ -1 +0,0 @@\n-x".toList }]

theorem Sample.ordered_compressed :
    (assemble Sample.options List.length Sample.ordered 7).1.compressed = true := by
  decide +kernel

theorem Sample.ordered_visits : visits Sample.options List.length Sample.ordered 7 =
    (visitAll Sample.options List.length { account := .start Sample.options 7 }
      (readyFiles Sample.ordered)).1 := visits_of_ordered (by decide +kernel)

theorem compressed_keeps_budget_of_ordered :
    (assemble Sample.options List.length Sample.ordered 7).1.compressed = true ∧
      7 + visitsCharge List.length false false
        (visits Sample.options List.length Sample.ordered 7) ≤ maxNumber ∧
      bodies (visits Sample.options List.length Sample.ordered 7) ≠ [] ∧
      KeepsBudget Sample.options List.length 7
        (visits Sample.options List.length Sample.ordered 7)
        (assemble Sample.options List.length Sample.ordered 7).1 := by
  have hexact : 7 + visitsCharge List.length false false
      (visits Sample.options List.length Sample.ordered 7) ≤ maxNumber := by
    rw [Sample.ordered_visits]
    decide +kernel
  have hbodies : bodies (visits Sample.options List.length Sample.ordered 7) ≠ [] := by
    rw [Sample.ordered_visits]
    decide +kernel
  exact ⟨Sample.ordered_compressed, hexact, hbodies,
    compressed_keeps_budget Sample.ordered_compressed hexact⟩

end Assembly
end DiffBudget
