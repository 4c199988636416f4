import DiffBudget.Assembly.Preparation
import DiffBudget.Proofs.Patch.Reading

/-!
# Which files are prepared

A file fails when a known version of it is not text, or when its patch, or the one rebuilt in its
place, has a malformed header. It is silent when its patch is blank and neither version is known.
Every other file is prepared.
-/
namespace DiffBudget.FileChange

def NotText (f : FileChange) : Prop :=
  ∃ side bytes, f.content side = some bytes ∧ Utf8.decode? bytes = none

def ReadsPatch (f : FileChange) (patch : Text) : Prop :=
  ∃ old new, f.contentText .old = .ok old ∧ f.contentText .new = .ok new ∧
    f.patchText old new = some patch

def MalformedPatch (f : FileChange) : Prop :=
  ∃ patch, f.ReadsPatch patch ∧ ∃ l ∈ patch.lines, Hunk.isMalformed l = true

def Failing (f : FileChange) : Prop := f.NotText ∨ f.MalformedPatch

def Silent (f : FileChange) : Prop :=
  f.patchIsBlank = true ∧ f.content .old = none ∧ f.content .new = none

variable {f : FileChange}

theorem contentText_cases (f : FileChange) (side : ContentSide) :
    (∃ t, f.contentText side = .ok t) ∨
      f.contentText side = .error (.notUtf8 f.filename side) ∧
        ∃ bytes, f.content side = some bytes ∧ Utf8.decode? bytes = none := by
  unfold contentText
  cases hbytes : f.content side with
  | none => exact .inl ⟨none, rfl⟩
  | some bytes =>
    cases htext : Utf8.decode? bytes with
    | some t => exact .inl ⟨some t, by simp [htext]⟩
    | none => exact .inr ⟨by simp [htext], bytes, rfl, htext⟩

theorem not_text_of_ok {side : ContentSide} {t : Option Text} (h : f.contentText side = .ok t) :
    ¬∃ bytes, f.content side = some bytes ∧ Utf8.decode? bytes = none := by
  rintro ⟨bytes, hbytes, htext⟩
  simp [contentText, hbytes, htext] at h

theorem prepare_of_notText (h : f.NotText) : f.prepare.isFaulty = true := by
  rcases contentText_cases f .old with ⟨old, hold⟩ | ⟨hold, -⟩
  · rcases contentText_cases f .new with ⟨new, hnew⟩ | ⟨hnew, -⟩
    · obtain ⟨side, hside⟩ := h
      cases side with
      | old => exact absurd hside (not_text_of_ok hold)
      | new => exact absurd hside (not_text_of_ok hnew)
    · simp [prepare, prepared, hold, hnew, bind, Except.bind, Preparation.isFaulty]
  · simp [prepare, prepared, hold, bind, Except.bind, Preparation.isFaulty]

theorem prepare_of_reads {old new : Option Text} {patch : Text}
    (hold : f.contentText .old = .ok old) (hnew : f.contentText .new = .ok new)
    (hpatch : f.patchText old new = some patch) :
    f.prepare = match Patch.parse patch with
      | .ok hunks => .ready ⟨f, hunks, old.map Text.lines⟩
      | .error e => .faulty e := by
  cases hparse : Patch.parse patch <;>
    simp [prepare, prepared, hold, hnew, hpatch, hparse, bind, Except.bind, pure, Except.pure]

theorem patchText_eq_none_iff {old new : Option Text} :
    f.patchText old new = none ↔ f.patchIsBlank = true ∧ old = none ∧ new = none := by
  unfold patchText
  by_cases hblank : f.patchIsBlank = true
  · cases old <;> cases new <;> simp [hblank]
  · simp [hblank]

theorem content_eq_none_of_text {side : ContentSide} (h : f.contentText side = .ok none) :
    f.content side = none := by
  cases hbytes : f.content side with
  | none => rfl
  | some bytes =>
    cases htext : Utf8.decode? bytes <;> simp [contentText, hbytes, htext] at h

theorem text_of_content_eq_none {side : ContentSide} (h : f.content side = none) :
    f.contentText side = .ok none := by
  simp [contentText, h]

theorem prepare_spec (f : FileChange) :
    (f.prepare.isFaulty = true ↔ f.Failing) ∧ (f.prepare = .silent ↔ f.Silent) ∧
      ((∃ p, f.prepare = .ready p) ↔ ¬f.Failing ∧ ¬f.Silent) := by
  by_cases hnot : f.NotText
  · have hfaulty := prepare_of_notText hnot
    have hfailing : f.Failing := .inl hnot
    have hsilent : ¬f.Silent := by
      rintro ⟨-, hold, hnew⟩
      obtain ⟨side, bytes, hbytes, -⟩ := hnot
      cases side <;> simp_all
    cases hp : f.prepare <;> simp_all [Preparation.isFaulty]
  · have text : ∀ side, ∃ t, f.contentText side = .ok t := fun side => by
      rcases contentText_cases f side with h | ⟨-, h⟩
      · exact h
      · exact absurd ⟨side, h⟩ hnot
    obtain ⟨old, hold⟩ := text .old
    obtain ⟨new, hnew⟩ := text .new
    cases hpatch : f.patchText old new with
    | none =>
      obtain ⟨hblank, rfl, rfl⟩ := patchText_eq_none_iff.mp hpatch
      have hsilent : f.Silent :=
        ⟨hblank, content_eq_none_of_text hold, content_eq_none_of_text hnew⟩
      have hprepare : f.prepare = .silent := by
        simp [prepare, prepared, hold, hnew, hpatch, bind, Except.bind, pure, Except.pure]
      have hfailing : ¬f.Failing := by
        rintro (h | ⟨patch, ⟨old, new, hold', hnew', hpatch'⟩, -⟩)
        · exact hnot h
        · obtain rfl := Except.ok.inj (hold.symm.trans hold')
          obtain rfl := Except.ok.inj (hnew.symm.trans hnew')
          simp [hpatch] at hpatch'
      simp [hprepare, hsilent, hfailing, Preparation.isFaulty]
    | some patch =>
      have hsilent : ¬f.Silent := by
        rintro ⟨hblank, hold', hnew'⟩
        obtain rfl := Except.ok.inj (hold.symm.trans (text_of_content_eq_none hold'))
        obtain rfl := Except.ok.inj (hnew.symm.trans (text_of_content_eq_none hnew'))
        simp [patchText_eq_none_iff.mpr ⟨hblank, rfl, rfl⟩] at hpatch
      have hmalformed : f.Failing ↔ ∃ e, Patch.parse patch = .error e := by
        rw [Patch.parse_fails_iff]
        constructor
        · rintro (h | ⟨patch', ⟨old', new', hold', hnew', hpatch'⟩, hl⟩)
          · exact absurd h hnot
          · obtain rfl := Except.ok.inj (hold.symm.trans hold')
            obtain rfl := Except.ok.inj (hnew.symm.trans hnew')
            obtain rfl := Option.some.inj (hpatch.symm.trans hpatch')
            exact hl
        · exact fun hl => .inr ⟨patch, ⟨old, new, hold, hnew, hpatch⟩, hl⟩
      rw [prepare_of_reads hold hnew hpatch, hmalformed]
      cases Patch.parse patch <;> simp [hsilent, Preparation.isFaulty]

end DiffBudget.FileChange
