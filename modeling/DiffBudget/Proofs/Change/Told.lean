import DiffBudget.Change.Status
import DiffBudget.Proofs.Change.Printed

/-!
# Told changes

What a list of changed paths and a diff tell of one path: the fields of the list, and the sections
of the diff, of which there are two when the path has become another sort of entry. The list is read
back: a field holds no zero character, and the letter of a status says how many paths follow.
-/
namespace DiffBudget

theorem Text.cutAt_append {isMark : Char → Bool} {front : Text}
    (hfront : ∀ c ∈ front, isMark c = false) {mark : Char} (hmark : isMark mark = true) (t : Text) :
    cutAt isMark (front ++ mark :: t) = front :: cutAt isMark t := by
  induction front with
  | nil => rw [List.nil_append, cutAt, if_pos hmark]
  | cons c front ih =>
    obtain ⟨hc, hrest⟩ := List.forall_mem_cons.mp hfront
    rw [List.cons_append, cutAt, if_neg (by simp [hc]), ih hrest]

namespace PathChange

def writeFields (fields : List Text) : Text := fields.flatMap (· ++ ['\x00'])

theorem cutAt_writeFields {fields : List Text} (h : ∀ f ∈ fields, '\x00' ∉ f) :
    Text.cutAt (· == '\x00') (writeFields fields) = fields ++ [[]] := by
  induction fields with
  | nil => rfl
  | cons f fields ih =>
    obtain ⟨hf, hrest⟩ := List.forall_mem_cons.mp h
    have hnone : ∀ c ∈ f, (c == '\x00') = false := by
      intro c hc
      have hne : c ≠ '\x00' := fun heq => hf (heq ▸ hc)
      simpa using hne
    have hcons : writeFields (f :: fields) = f ++ '\x00' :: writeFields fields := by
      simp [writeFields]
    rw [hcons, Text.cutAt_append hnone (by rfl), ih hrest, List.cons_append]

theorem read_writeFields {fields : List Text} (h : ∀ f ∈ fields, f ≠ [] ∧ '\x00' ∉ f) :
    read (writeFields fields) = ofFields fields := by
  have hkept : (fields ++ [[]]).filter (! ·.isEmpty) = fields := by
    rw [List.filter_append, List.filter_eq_self.mpr]
    · simp
    · intro f hf
      simpa using (h f hf).1
  rw [read, cutAt_writeFields fun f hf => (h f hf).2, hkept]

theorem ofFields_one {status first : Text} (h : hasTwoPaths status = false) (rest : List Text) :
    ofFields (status :: first :: rest) = (ofFields? status first none).toList ++ ofFields rest := by
  rw [ofFields.eq_def]
  simp only [h, Bool.false_eq_true, if_false]

theorem ofFields_two {status first second : Text} (h : hasTwoPaths status = true)
    (rest : List Text) : ofFields (status :: first :: second :: rest) =
      (ofFields? status first (some second)).toList ++ ofFields rest := by
  rw [ofFields.eq_def]
  simp only [h, if_true]

end PathChange

/-- One of two versions of a path, as its own section shows it. -/
structure PrintedSide where
  mode : Text
  index : Option Text
  body : PrintedBody
  deriving DecidableEq, Repr

inductive ToldChange
  | single (s : PrintedSection)
  | retyped (path : Text) (old new : PrintedSide)
  deriving DecidableEq, Repr

namespace ToldChange

def path : ToldChange → Text
  | single s => s.edit.path
  | retyped path _ _ => path

def sections : ToldChange → List PrintedSection
  | single s => [s]
  | retyped path old new =>
    [{ edit := .deleted path old.mode, index := old.index, body := old.body },
      { edit := .added path new.mode, index := new.index, body := new.body }]

def percentDigits (percent : Nat) : Text :=
  List.replicate (3 - (Text.ofNat percent).length) '0' ++ Text.ofNat percent

def status : ToldChange → Text
  | single { edit := .added .., .. } => ['A']
  | single { edit := .deleted .., .. } => ['D']
  | single { edit := .modified _, .. } => ['M']
  | single { edit := .renamed _ _ percent, .. } => 'R' :: percentDigits percent
  | retyped .. => ['T']

def listedPaths : ToldChange → List Text
  | single { edit := .renamed oldPath path _, .. } => [oldPath, path]
  | c => [c.path]

def fields (c : ToldChange) : List Text := c.status :: c.listedPaths

def listed : ToldChange → PathChange
  | single { edit := .renamed oldPath path _, .. } => ⟨.renamed, some oldPath, path⟩
  | single s => ⟨s.edit.kind, none, s.edit.path⟩
  | retyped path _ _ => ⟨.modified, none, path⟩

structure WellFormed (c : ToldChange) : Prop where
  sections : ∀ s ∈ c.sections, s.WellFormed
  listedPaths : ∀ p ∈ c.listedPaths, p ≠ []

theorem listed_path (c : ToldChange) : c.listed.path = c.path := by
  cases c with
  | single s =>
    obtain ⟨edit, _, _, _⟩ := s
    cases edit <;> rfl
  | retyped => rfl

theorem path_of_mem_sections {c : ToldChange} {s : PrintedSection} (h : s ∈ c.sections) :
    s.edit.path = c.path := by
  cases c with
  | single t =>
    obtain rfl := List.mem_singleton.mp h
    rfl
  | retyped path old new =>
    simp only [sections, List.mem_cons, List.not_mem_nil, or_false] at h
    rcases h with rfl | rfl <;> rfl

theorem ofFields_fields (c : ToldChange) (rest : List Text) :
    PathChange.ofFields (c.fields ++ rest) = c.listed :: PathChange.ofFields rest := by
  cases c with
  | single s =>
    obtain ⟨edit, _, _, _⟩ := s
    cases edit with
    | added => exact PathChange.ofFields_one rfl rest
    | deleted => exact PathChange.ofFields_one rfl rest
    | modified => exact PathChange.ofFields_one rfl rest
    | renamed => exact PathChange.ofFields_two rfl rest
  | retyped => exact PathChange.ofFields_one rfl rest

theorem zero_not_mem_status (c : ToldChange) : '\x00' ∉ c.status := by
  cases c with
  | single s =>
    obtain ⟨edit, _, _, _⟩ := s
    cases edit with
    | added => simp [status]
    | deleted => simp [status]
    | modified => simp [status]
    | renamed _ _ percent =>
      have hdigits : '\x00' ∉ Text.ofNat percent := fun hmem =>
        absurd (Text.isDigit_of_mem_ofNat hmem) (by decide)
      simp [status, percentDigits, hdigits]
  | retyped => simp [status]

theorem status_ne_nil (c : ToldChange) : c.status ≠ [] := by
  cases c with
  | single s =>
    obtain ⟨edit, _, _, _⟩ := s
    cases edit <;> exact List.cons_ne_nil _ _
  | retyped => exact List.cons_ne_nil _ _

theorem isBare_of_mem_listedPaths {c : ToldChange} (h : c.WellFormed) {p : Text}
    (hp : p ∈ c.listedPaths) : Path.IsBare p := by
  cases c with
  | single s =>
    have hs := h.sections s (List.mem_singleton_self s)
    obtain ⟨edit, _, _, _⟩ := s
    cases edit with
    | added => exact List.mem_singleton.mp hp ▸ hs.path
    | deleted => exact List.mem_singleton.mp hp ▸ hs.path
    | modified => exact List.mem_singleton.mp hp ▸ hs.path
    | renamed =>
      rcases List.mem_cons.mp hp with rfl | hp
      · exact hs.oldPath
      · exact List.mem_singleton.mp hp ▸ hs.path
  | retyped => exact List.mem_singleton.mp hp ▸ (h.sections _ List.mem_cons_self).path

theorem fields_readable {c : ToldChange} (h : c.WellFormed) :
    ∀ f ∈ c.fields, f ≠ [] ∧ '\x00' ∉ f := by
  refine List.forall_mem_cons.mpr ⟨⟨c.status_ne_nil, c.zero_not_mem_status⟩, ?_⟩
  intro p hp
  exact ⟨h.listedPaths p hp, (isBare_of_mem_listedPaths h hp).not_mem (by decide)⟩

def listOf (changes : List ToldChange) : Text := PathChange.writeFields (changes.flatMap fields)

theorem read_listOf {changes : List ToldChange} (h : ∀ c ∈ changes, c.WellFormed) :
    PathChange.read (listOf changes) = changes.map listed := by
  rw [listOf, PathChange.read_writeFields]
  · clear h
    induction changes with
    | nil => simp [PathChange.ofFields]
    | cons c changes ih => rw [List.flatMap_cons, ofFields_fields, ih, List.map_cons]
  · intro f hf
    obtain ⟨c, hc, hf⟩ := List.mem_flatMap.mp hf
    exact fields_readable (h c hc) f hf

end ToldChange
end DiffBudget
