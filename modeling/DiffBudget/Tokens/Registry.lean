import DiffBudget.Tokens.Estimate

/-!
# Shared counters

A registry holds one counter for each model that was asked for. Asking takes two steps: a look-up,
and, when nothing was found, an entry, which looks once more before it builds. Counters are told
apart by their serial numbers, in the order in which they were built.
-/
namespace DiffBudget

structure SharedCounter where
  serial : Nat
  model : Text
  deriving DecidableEq, Repr

structure Registry where
  built : List (Text × SharedCounter) := []
  deriving Repr

namespace Registry

def size (r : Registry) : Nat := r.built.length

def isEmpty (r : Registry) : Bool := r.size == 0

def find? (r : Registry) (model : Text) : Option SharedCounter := r.built.lookup model

/-- The counter of the model after the second step, and the registry with it. -/
def enter (r : Registry) (model : Text) : SharedCounter × Registry :=
  match r.find? model with
  | some c => (c, r)
  | none => (⟨r.size, model⟩, ⟨r.built ++ [(model, ⟨r.size, model⟩)]⟩)

def counterFor (r : Registry) (model : Text) : SharedCounter × Registry :=
  match r.find? model with
  | some c => (c, r)
  | none => r.enter model

theorem counterFor_eq_enter (r : Registry) (model : Text) :
    r.counterFor model = r.enter model := by
  unfold counterFor enter
  split <;> simp_all

end Registry

namespace SharedCounter

/-- The measure that stands in for the model's vocabulary. -/
def count (c : SharedCounter) : TokenCounter := (TokenProfile.ofModel c.model).estimate

end SharedCounter
end DiffBudget
