import DiffBudget.Proofs.Change.Told

/-!
# Lists of changed paths are read back

A list says of every path its status and then the path, or two paths where the status is that of a
rename or a copy. Nothing in a field tells a status from a path, so the reader has to take as many
fields as were written for a record, also where it passes the record over.
-/
namespace DiffBudget.PathChange

/-- A text that can stand between two zero characters. -/
structure ListField where
  text : Text
  ne_nil : text ≠ []
  no_zero : '\x00' ∉ text

/-- What a list says of one path. -/
structure ListRecord where
  status : ListField
  path : ListField
  /-- The path after a rename or a copy; then `path` is the one before. -/
  newPath : Option ListField
  newPath_iff : newPath.isSome = true ↔
    status.text.head? = some 'R' ∨ status.text.head? = some 'C'

namespace ListRecord

def fields (r : ListRecord) : List Text :=
  r.status.text :: r.path.text :: (r.newPath.map (·.text)).toList

/-- The change that a record tells of. Copies and unknown statuses tell of none. -/
def told? (r : ListRecord) : Option PathChange :=
  match r.status.text.head?, r.newPath with
  | some 'A', _ => some ⟨.added, none, r.path.text⟩
  | some 'D', _ => some ⟨.deleted, none, r.path.text⟩
  | some 'M', _ | some 'T', _ => some ⟨.modified, none, r.path.text⟩
  | some 'R', some newPath => some ⟨.renamed, some r.path.text, newPath.text⟩
  | _, _ => none

def listOf (records : List ListRecord) : Text := writeFields (records.flatMap fields)

theorem hasTwoPaths_status (r : ListRecord) : hasTwoPaths r.status.text = r.newPath.isSome := by
  rw [Bool.eq_iff_iff, r.newPath_iff, hasTwoPaths]
  simp

theorem ofFields?_eq_told? (r : ListRecord) :
    ofFields? r.status.text r.path.text (r.newPath.map (·.text)) = r.told? := by
  obtain ⟨status, path, newPath, htwo⟩ := r
  cases newPath with
  | none =>
    have hletter : status.text.head? ≠ some 'R' := fun h => by simp [h] at htwo
    unfold ofFields? told? EditKind.ofStatus?
    split <;> simp_all
  | some newPath =>
    have hletter : status.text.head? = some 'R' ∨ status.text.head? = some 'C' := htwo.mp rfl
    rcases hletter with h | h <;> simp [ofFields?, told?, EditKind.ofStatus?, h]

theorem ofFields_fields_append (r : ListRecord) (rest : List Text) :
    ofFields (r.fields ++ rest) = r.told?.toList ++ ofFields rest := by
  have htwo := r.hasTwoPaths_status
  rw [← ofFields?_eq_told?]
  cases hpath : r.newPath with
  | none =>
    rw [hpath] at htwo
    simpa [fields, hpath] using ofFields_one htwo rest
  | some newPath =>
    rw [hpath] at htwo
    simpa [fields, hpath] using ofFields_two htwo rest

theorem ofFields_records (records : List ListRecord) :
    ofFields (records.flatMap fields) = records.filterMap told? := by
  induction records with
  | nil => simp [ofFields]
  | cons r records ih =>
    rw [List.flatMap_cons, ofFields_fields_append, ih]
    cases hr : r.told? <;> simp [hr]

theorem readable_of_mem_fields {r : ListRecord} {f : Text} (h : f ∈ r.fields) :
    f ≠ [] ∧ '\x00' ∉ f := by
  have hfield : ∃ field : ListField, f = field.text := by
    simp only [fields, List.mem_cons, Option.mem_toList, Option.map_eq_some_iff] at h
    rcases h with rfl | rfl | ⟨newPath, -, rfl⟩
    · exact ⟨_, rfl⟩
    · exact ⟨_, rfl⟩
    · exact ⟨_, rfl⟩
  obtain ⟨field, rfl⟩ := hfield
  exact ⟨field.ne_nil, field.no_zero⟩

/-- A list is read as the changes that its records tell of, in their order. -/
theorem read_records (records : List ListRecord) :
    read (listOf records) = records.filterMap told? := by
  rw [listOf, read_writeFields, ofFields_records]
  intro f hf
  obtain ⟨r, -, hf⟩ := List.mem_flatMap.mp hf
  exact readable_of_mem_fields hf

namespace Sample

def copied : ListRecord where
  status := ⟨"C100".toList, by decide, by decide⟩
  path := ⟨"a".toList, by decide, by decide⟩
  newPath := some ⟨"D".toList, by decide, by decide⟩
  newPath_iff := by decide

def renamed : ListRecord where
  status := ⟨"R090".toList, by decide, by decide⟩
  path := ⟨"b".toList, by decide, by decide⟩
  newPath := some ⟨"c".toList, by decide, by decide⟩
  newPath_iff := by decide

def unknown : ListRecord where
  status := ⟨"X".toList, by decide, by decide⟩
  path := ⟨"d".toList, by decide, by decide⟩
  newPath := none
  newPath_iff := by decide

def retyped : ListRecord where
  status := ⟨"T".toList, by decide, by decide⟩
  path := ⟨"e".toList, by decide, by decide⟩
  newPath := none
  newPath_iff := by decide

end Sample

/-- The copy is passed over with both paths, the second of which looks like a status. -/
theorem read_records_of_copied :
    listOf [Sample.copied, Sample.renamed, Sample.unknown, Sample.retyped] =
        "C100\x00a\x00D\x00R090\x00b\x00c\x00X\x00d\x00T\x00e\x00".toList ∧
      read (listOf [Sample.copied, Sample.renamed, Sample.unknown, Sample.retyped]) =
        [⟨.renamed, some "b".toList, "c".toList⟩, ⟨.modified, none, "e".toList⟩] := by
  refine ⟨by decide, ?_⟩
  rw [read_records]
  decide

end ListRecord
end DiffBudget.PathChange
