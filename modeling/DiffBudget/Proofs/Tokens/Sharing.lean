import DiffBudget.Tokens.Callers
import Mathlib.Data.Finset.Card
import Mathlib.Data.List.Nodup

/-!
# One counter for each model

Two callers may look a model up before either has entered it, and both then enter. The second step
looks once more, so it builds only where the registry has nothing by then, and it never touches
what is stored. One step keeps this whoever takes it, and so does every run, for any schedule of
any number of callers.
-/
namespace DiffBudget

namespace Registry

def counters (r : Registry) : List SharedCounter := r.built.map (·.2)

/-- Every counter stands under its own model, no model has two, and the serial numbers count the
entries. -/
structure Sound (r : Registry) : Prop where
  entries : r.built = r.counters.map fun c => (c.model, c)
  models : (r.counters.map (·.model)).Nodup
  serials : r.counters.map (·.serial) = List.range r.size

variable {r : Registry} {model other : Text} {c d : SharedCounter}

theorem sound_empty : Sound {} := ⟨rfl, List.nodup_nil, rfl⟩

theorem mem_counters_of_find? (h : r.Sound) (hfind : r.find? model = some c) :
    c ∈ r.counters ∧ c.model = model := by
  obtain ⟨front, back, hbuilt, -⟩ := List.lookup_eq_some_iff.mp hfind
  have hmem : (model, c) ∈ r.counters.map fun c => (c.model, c) := by
    rw [← h.entries, hbuilt]
    simp
  obtain ⟨d, hd, hpair⟩ := List.mem_map.mp hmem
  cases hpair
  exact ⟨hd, rfl⟩

theorem eq_of_serial_eq (h : r.Sound) (hc : c ∈ r.counters) (hd : d ∈ r.counters)
    (hserial : c.serial = d.serial) : c = d := by
  have hnodup : (r.counters.map (·.serial)).Nodup := by
    rw [h.serials]
    exact List.nodup_range
  exact List.inj_on_of_nodup_map hnodup hc hd hserial

theorem enter_cases (r : Registry) (model : Text) :
    (∃ c, r.find? model = some c ∧ r.enter model = (c, r) ∧ r.builtFor model = []) ∨
    (r.find? model = none ∧
      r.enter model = (⟨r.size, model⟩, ⟨r.built ++ [(model, ⟨r.size, model⟩)]⟩) ∧
      r.builtFor model = [⟨r.size, model⟩]) := by
  unfold builtFor enter
  cases r.find? model with
  | some c => exact .inl ⟨c, rfl, rfl, rfl⟩
  | none => exact .inr ⟨rfl, rfl, rfl⟩

theorem counters_enter (r : Registry) (model : Text) :
    (r.enter model).2.counters = r.counters ++ r.builtFor model := by
  rcases enter_cases r model with ⟨c, -, henter, hbuilt⟩ | ⟨-, henter, hbuilt⟩
  · rw [henter, hbuilt, List.append_nil]
  · rw [henter, hbuilt, counters, List.map_append]
    rfl

theorem find?_enter_of_some (hfind : r.find? other = some c) (model : Text) :
    (r.enter model).2.find? other = some c := by
  rcases enter_cases r model with ⟨d, -, henter, -⟩ | ⟨-, henter, -⟩
  · rw [henter]
    exact hfind
  · rw [henter, find?, List.lookup_append, ← find?, hfind]
    rfl

theorem find?_enter (r : Registry) (model : Text) :
    (r.enter model).2.find? model = some (r.enter model).1 := by
  rcases enter_cases r model with ⟨c, hfind, henter, -⟩ | ⟨hfind, henter, -⟩
  · rw [henter]
    exact hfind
  · rw [henter, find?, List.lookup_append, ← find?, hfind]
    exact List.lookup_cons_self

theorem Sound.enter (h : r.Sound) (model : Text) : (r.enter model).2.Sound := by
  have hcounters := counters_enter r model
  rcases enter_cases r model with ⟨c, -, henter, -⟩ | ⟨hfind, henter, hbuilt⟩
  · rw [henter]
    exact h
  · rw [hbuilt] at hcounters
    have hnew : model ∉ r.counters.map (·.model) := by
      intro hmem
      obtain ⟨d, hd, hmodel⟩ := List.mem_map.mp hmem
      have hentry : (model, d) ∈ r.built := by
        rw [h.entries]
        exact List.mem_map.mpr ⟨d, hd, by rw [hmodel]⟩
      exact absurd rfl (bne_iff_ne.mp (List.lookup_eq_none_iff.mp hfind _ hentry))
    refine ⟨?_, ?_, ?_⟩
    · rw [hcounters, henter, List.map_append, ← h.entries]
      rfl
    · rw [hcounters, List.map_append, List.map_singleton, ← List.concat_eq_append]
      exact h.models.concat hnew
    · rw [hcounters, henter, List.map_append, h.serials]
      simp [size, List.range_succ]

end Registry

namespace Sharing

variable {ι : Type} {s : Sharing ι}

/-- The registry holds just what was built, every answer is what it holds, and every counter was
built in the second step of a call that has returned. -/
structure Consistent (s : Sharing ι) : Prop where
  sound : s.registry.Sound
  built : s.built = s.registry.counters
  answers : ∀ a ∈ s.answers, s.registry.find? a.model = some a.counter
  entered : ∀ c ∈ s.built, ∃ a ∈ s.answers, a.entered = true ∧ a.model = c.model

theorem start_consistent (models : ι → List Text) : (start models).Consistent :=
  ⟨Registry.sound_empty, rfl, fun _ ha => absurd ha List.not_mem_nil,
    fun _ hc => absurd hc List.not_mem_nil⟩

theorem Consistent.size (h : s.Consistent) :
    s.registry.size = ((s.answers.filter (·.entered)).map (·.model)).toFinset.card := by
  have hmodels : ((s.answers.filter (·.entered)).map (·.model)).toFinset =
      (s.registry.counters.map (·.model)).toFinset := by
    ext model
    simp only [List.mem_toFinset, List.mem_map, List.mem_filter]
    constructor
    · rintro ⟨a, ⟨ha, -⟩, rfl⟩
      exact ⟨a.counter, Registry.mem_counters_of_find? h.sound (h.answers a ha)⟩
    · rintro ⟨c, hc, rfl⟩
      obtain ⟨a, ha, hentered, hmodel⟩ := h.entered c (h.built ▸ hc)
      exact ⟨a, ⟨ha, hentered⟩, hmodel⟩
  rw [hmodels, List.toFinset_card_of_nodup h.sound.models, List.length_map]
  simp [Registry.size, Registry.counters]

variable [DecidableEq ι]

theorem Consistent.answer (h : s.Consistent) {a : Answer ι}
    (ha : s.registry.find? a.model = some a.counter) (left : List Text) :
    (s.answer a left).Consistent := by
  refine ⟨h.sound, h.built, ?_, ?_⟩
  · intro b hb
    rcases List.mem_append.mp hb with hb | hb
    · exact h.answers b hb
    · rwa [List.mem_singleton.mp hb]
  · intro c hc
    obtain ⟨b, hb, hentered⟩ := h.entered c hc
    exact ⟨b, List.mem_append_left _ hb, hentered⟩

theorem Consistent.enter (h : s.Consistent) (i : ι) (model : Text) (left : List Text) :
    (s.enter i model left).Consistent := by
  refine ⟨h.sound.enter model, ?_, ?_, ?_⟩
  · exact (congrArg (· ++ _) h.built).trans (Registry.counters_enter s.registry model).symm
  · intro a ha
    rcases List.mem_append.mp ha with ha | ha
    · exact Registry.find?_enter_of_some (h.answers a ha) model
    · rw [List.mem_singleton.mp ha]
      exact Registry.find?_enter s.registry model
  · intro c hc
    rcases List.mem_append.mp hc with hc | hc
    · obtain ⟨a, ha, hentered⟩ := h.entered c hc
      exact ⟨a, List.mem_append_left _ ha, hentered⟩
    · refine ⟨_, List.mem_append_right _ List.mem_cons_self, rfl, ?_⟩
      rcases Registry.enter_cases s.registry model with ⟨d, -, -, hbuilt⟩ | ⟨-, -, hbuilt⟩
      · rw [hbuilt] at hc
        cases hc
      · rw [hbuilt] at hc
        rw [List.mem_singleton.mp hc]

theorem Consistent.step (h : s.Consistent) (i : ι) : (s.step i).Consistent := by
  rcases step_cases s i with ⟨-, hstep⟩ |
    ⟨model, left, -, ⟨-, hstep⟩ | ⟨-, c, hfind, hstep⟩ | ⟨-, -, hstep⟩⟩ <;> rw [hstep]
  · exact h
  · exact h.enter i model left
  · exact h.answer hfind left
  · exact ⟨h.sound, h.built, h.answers, h.entered⟩

theorem Consistent.run (h : s.Consistent) (schedule : List ι) : (s.run schedule).Consistent := by
  induction schedule generalizing s with
  | nil => exact h
  | cons i schedule ih => exact ih (h.step i)

theorem find?_step {model : Text} {c : SharedCounter} (hfind : s.registry.find? model = some c)
    (i : ι) : (s.step i).registry.find? model = some c := by
  rcases step_cases s i with ⟨-, hstep⟩ |
    ⟨asked, left, -, ⟨-, hstep⟩ | ⟨-, d, -, hstep⟩ | ⟨-, -, hstep⟩⟩ <;> rw [hstep]
  · exact hfind
  · exact Registry.find?_enter_of_some hfind asked
  · exact hfind
  · exact hfind

theorem find?_run {model : Text} {c : SharedCounter} (hfind : s.registry.find? model = some c)
    (schedule : List ι) : (s.run schedule).registry.find? model = some c := by
  induction schedule generalizing s with
  | nil => exact hfind
  | cons i schedule ih => exact ih (find?_step hfind i)

def calls (s : Sharing ι) (i : ι) : List Text :=
  (s.answers.filter fun a => a.caller = i).map (·.model) ++ (s.callers i).models

theorem calls_answer {a : Answer ι} {left : List Text}
    (hmodels : (s.callers a.caller).models = a.model :: left) (i : ι) :
    (s.answer a left).calls i = s.calls i := by
  by_cases hi : i = a.caller
  · subst hi
    simp [calls, answer, setCaller, hmodels]
  · simp [calls, answer, setCaller, hi, Ne.symm hi]

theorem calls_step (s : Sharing ι) (i j : ι) : (s.step i).calls j = s.calls j := by
  rcases step_cases s i with ⟨-, hstep⟩ |
    ⟨model, left, hmodels, ⟨-, hstep⟩ | ⟨-, c, -, hstep⟩ | ⟨-, -, hstep⟩⟩ <;> rw [hstep]
  · exact calls_answer (a := ⟨i, model, (s.registry.enter model).1, true⟩) hmodels j
  · exact calls_answer (a := ⟨i, model, c, false⟩) hmodels j
  · by_cases hj : j = i
    · subst hj
      simp [calls, setCaller, hmodels]
    · simp [calls, setCaller, hj]

theorem calls_run (s : Sharing ι) (schedule : List ι) (i : ι) :
    (s.run schedule).calls i = s.calls i := by
  induction schedule generalizing s with
  | nil => rfl
  | cons j schedule ih => rw [run_cons, ih, calls_step]

def stepsLeft (s : Sharing ι) (i : ι) : Nat :=
  2 * (s.callers i).models.length - if (s.callers i).missed then 1 else 0

theorem stepsLeft_step_self (s : Sharing ι) (i : ι) :
    (s.step i).stepsLeft i ≤ s.stepsLeft i - 1 := by
  rcases step_cases s i with ⟨hmodels, hstep⟩ |
    ⟨model, left, hmodels, ⟨hmissed, hstep⟩ | ⟨hmissed, c, -, hstep⟩ | ⟨hmissed, -, hstep⟩⟩ <;>
    rw [hstep]
  · simp [stepsLeft, hmodels]
  all_goals
    simp only [stepsLeft, enter, answer, setCaller, hmodels, hmissed, List.length_cons, if_true,
      Bool.false_eq_true, if_false]
    omega

theorem stepsLeft_step_other {i j : ι} (h : j ≠ i) (s : Sharing ι) :
    (s.step i).stepsLeft j = s.stepsLeft j := by
  rcases step_cases s i with ⟨-, hstep⟩ |
    ⟨model, left, -, ⟨-, hstep⟩ | ⟨-, c, -, hstep⟩ | ⟨-, -, hstep⟩⟩ <;> rw [hstep]
  all_goals simp [stepsLeft, enter, answer, setCaller, h]

theorem stepsLeft_run (s : Sharing ι) (schedule : List ι) (i : ι) :
    (s.run schedule).stepsLeft i ≤ s.stepsLeft i - schedule.count i := by
  induction schedule generalizing s with
  | nil => exact Nat.le_refl _
  | cons j schedule ih =>
    have hlater : ((s.step j).run schedule).stepsLeft i ≤ _ := ih (s.step j)
    by_cases hj : j = i
    · subst hj
      have hfirst := stepsLeft_step_self s j
      rw [List.count_cons_self, run_cons]
      omega
    · rw [List.count_cons_of_ne hj, run_cons]
      rwa [stepsLeft_step_other (Ne.symm hj)] at hlater

omit [DecidableEq ι] in
theorem models_of_stepsLeft {i : ι} (h : s.stepsLeft i = 0) : (s.callers i).models = [] := by
  unfold stepsLeft at h
  refine List.eq_nil_of_length_eq_zero ?_
  split at h <;> omega

structure SharesCounters (models : ι → List Text) (s : Sharing ι) : Prop where
  builtOnce : ∀ model, (s.built.map (·.model)).count model ≤ 1
  answers : ∀ a ∈ s.answers, a.counter ∈ s.built ∧ a.counter.model = a.model
  same : ∀ a ∈ s.answers, ∀ b ∈ s.answers, a.model = b.model → a.counter = b.counter
  different : ∀ a ∈ s.answers, ∀ b ∈ s.answers, a.model ≠ b.model →
    a.counter.serial ≠ b.counter.serial
  kept : ∀ model c, s.registry.find? model = some c →
    ∀ further, (s.run further).registry.find? model = some c
  size : s.registry.size =
    ((s.answers.filter (·.entered)).map (·.model)).toFinset.card
  calls : ∀ i, (s.answers.filter fun a => a.caller = i).map (·.model) ++ (s.callers i).models =
    models i

/-- Whatever the order of the steps, one counter is built for each model that was entered, and all
calls for the model return it; a caller that has taken two steps for each of its calls has no call
left. -/
theorem registry_shares_counters (models : ι → List Text) (schedule : List ι) :
    SharesCounters models ((start models).run schedule) ∧
      ∀ i, 2 * (models i).length ≤ schedule.count i →
        (((start models).run schedule).callers i).models = [] := by
  let s := (start models).run schedule
  have h : s.Consistent := (start_consistent models).run schedule
  have hcounter : ∀ a ∈ s.answers, a.counter ∈ s.registry.counters ∧ a.counter.model = a.model :=
    fun a ha => Registry.mem_counters_of_find? h.sound (h.answers a ha)
  refine ⟨⟨?_, ?_, ?_, ?_, fun _ _ => find?_run, h.size, ?_⟩, ?_⟩
  · intro model
    rw [h.built]
    exact List.nodup_iff_count_le_one.mp h.sound.models model
  · rw [h.built]
    exact hcounter
  · intro a ha b hb hmodel
    have hsame := h.answers a ha
    rw [hmodel, h.answers b hb] at hsame
    exact (Option.some.inj hsame).symm
  · intro a ha b hb hmodel hserial
    have hsame := Registry.eq_of_serial_eq h.sound (hcounter a ha).1 (hcounter b hb).1 hserial
    exact hmodel ((hcounter a ha).2.symm.trans ((congrArg _ hsame).trans (hcounter b hb).2))
  · intro i
    exact calls_run (start models) schedule i
  · intro i hsteps
    have hleft := stepsLeft_run (start models) schedule i
    have hstart : (start models).stepsLeft i = 2 * (models i).length := rfl
    exact models_of_stepsLeft (by omega)

/-- A call whose two steps no other caller comes between is the call made at once. -/
theorem undisturbed_call {i : ι} {model : Text} {left : List Text}
    (h : s.callers i = ⟨model :: left, false⟩) :
    let t := if (s.registry.find? model).isSome then s.step i else (s.step i).step i
    t.registry = (s.registry.counterFor model).2 ∧
      t.answers.map (·.counter) =
        s.answers.map (·.counter) ++ [(s.registry.counterFor model).1] := by
  intro t
  cases hfind : s.registry.find? model with
  | some c =>
    have ht : t = s.answer ⟨i, model, c, false⟩ left := by
      simp only [t, hfind, Option.isSome_some, if_true, step, h]
    rw [ht, Registry.counterFor, hfind]
    exact ⟨rfl, List.map_append⟩
  | none =>
    have hmiss : s.step i = s.setCaller i ⟨model :: left, true⟩ := by simp only [step, h, hfind]
    have ht : t = (s.setCaller i ⟨model :: left, true⟩).enter i model left := by
      simp only [t, hfind, Option.isSome_none, Bool.false_eq_true, if_false, hmiss]
      simp only [step, setCaller, if_true]
    rw [ht, Registry.counterFor_eq_enter]
    exact ⟨rfl, List.map_append⟩

/-- Both callers miss the model that they share before either enters it. The first to enter builds
the counter and the second finds it. -/
example :
    let models : Bool → List Text := fun _ => ["gpt-4".toList]
    ((start models).run [true, false, false, true]).answers.map (·.counter.serial) = [0, 0] ∧
      ((start models).run [true, false, false, true]).registry.size = 1 := by decide

theorem registry_shares_counters_of_two_misses :
    let models : Bool → List Text := fun _ => ["gpt-4".toList]
    let s := (start models).run [true, false, false, true]
    SharesCounters models s ∧ ∀ i, 2 * (models i).length ≤ [true, false, false, true].count i ∧
      (s.callers i).models = [] := by
  intro models s
  have hshares := registry_shares_counters models [true, false, false, true]
  have hsteps : ∀ i, 2 * (models i).length ≤ [true, false, false, true].count i := by decide
  exact ⟨hshares.1, fun i => ⟨hsteps i, hshares.2 i (hsteps i)⟩⟩

end Sharing
end DiffBudget
