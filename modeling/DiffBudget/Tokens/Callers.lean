import DiffBudget.Tokens.Registry

/-!
# Callers of one registry

Callers that work at the same time share one registry. Each asks for its models one after another.
A call is a look-up and, when that found nothing, an entry. Each of the two is one step, since it
is taken under a lock; between them other callers may take steps of theirs. A schedule says who
takes the next step.
-/
namespace DiffBudget

namespace Registry

/-- The counters that the second step of a call builds: one, unless the model has one by then. -/
def builtFor (r : Registry) (model : Text) : List SharedCounter :=
  match r.find? model with
  | some _ => []
  | none => [(r.enter model).1]

end Registry

structure Caller where
  /-- The models of its calls, the current one first. -/
  models : List Text
  /-- Whether the current call has looked the model up and found nothing. -/
  missed : Bool := false
  deriving DecidableEq, Repr

structure Answer (ι : Type) where
  caller : ι
  model : Text
  counter : SharedCounter
  entered : Bool
  deriving DecidableEq, Repr

structure Sharing (ι : Type) where
  registry : Registry := {}
  callers : ι → Caller
  answers : List (Answer ι) := []
  built : List SharedCounter := []

namespace Sharing

variable {ι : Type} [DecidableEq ι]

def start (models : ι → List Text) : Sharing ι := { callers := fun i => ⟨models i, false⟩ }

def setCaller (s : Sharing ι) (i : ι) (c : Caller) : Sharing ι :=
  { s with callers := fun j => if j = i then c else s.callers j }

def answer (s : Sharing ι) (a : Answer ι) (left : List Text) : Sharing ι :=
  { s.setCaller a.caller ⟨left, false⟩ with answers := s.answers ++ [a] }

def enter (s : Sharing ι) (i : ι) (model : Text) (left : List Text) : Sharing ι :=
  { s.answer ⟨i, model, (s.registry.enter model).1, true⟩ left with
    registry := (s.registry.enter model).2
    built := s.built ++ s.registry.builtFor model }

/-- One step of a caller. It waits when all its calls have returned. -/
def step (s : Sharing ι) (i : ι) : Sharing ι :=
  match s.callers i with
  | ⟨[], _⟩ => s
  | ⟨model :: left, true⟩ => s.enter i model left
  | ⟨model :: left, false⟩ =>
    match s.registry.find? model with
    | some c => s.answer ⟨i, model, c, false⟩ left
    | none => s.setCaller i ⟨model :: left, true⟩

def run (s : Sharing ι) (schedule : List ι) : Sharing ι := schedule.foldl step s

@[simp] theorem run_nil (s : Sharing ι) : s.run [] = s := rfl

@[simp] theorem run_cons (s : Sharing ι) (i : ι) (schedule : List ι) :
    s.run (i :: schedule) = (s.step i).run schedule := rfl

theorem step_cases (s : Sharing ι) (i : ι) :
    ((s.callers i).models = [] ∧ s.step i = s) ∨
    ∃ model left, (s.callers i).models = model :: left ∧
      (((s.callers i).missed = true ∧ s.step i = s.enter i model left) ∨
      ((s.callers i).missed = false ∧ ∃ c, s.registry.find? model = some c ∧
        s.step i = s.answer ⟨i, model, c, false⟩ left) ∨
      ((s.callers i).missed = false ∧ s.registry.find? model = none ∧
        s.step i = s.setCaller i ⟨model :: left, true⟩)) := by
  unfold step
  obtain ⟨models, missed⟩ := s.callers i
  cases models with
  | nil => exact .inl ⟨rfl, rfl⟩
  | cons model left =>
    refine .inr ⟨model, left, rfl, ?_⟩
    cases missed with
    | true => exact .inl ⟨rfl, rfl⟩
    | false =>
      cases hfind : s.registry.find? model with
      | some c => exact .inr (.inl ⟨rfl, c, rfl, by simp only [hfind]⟩)
      | none => exact .inr (.inr ⟨rfl, rfl, by simp only [hfind]⟩)

end Sharing
end DiffBudget
