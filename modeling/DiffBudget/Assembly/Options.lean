import DiffBudget.Failure

/-!
# Settings of one assembly

The limit of the model, the context around hunks, and two reserves below the limit: the soft one
stays free when a file is admitted, and past the hard one nothing more is shown. Both reserves
have to leave room below the limit.
-/
namespace DiffBudget

structure AssemblyOptions where
  limit : Nat
  contextBefore : Nat := 3
  contextAfter : Nat := 3
  softReserve : Nat := 1000
  hardReserve : Nat := 600
  lineNumbers : Bool := false
  noExtendSuffixes : List Text := []
  deriving DecidableEq, Repr

namespace AssemblyOptions

def validate (o : AssemblyOptions) : Except Failure Unit :=
  if o.limit ≤ o.softReserve then .error (.softReserveTooLarge o.softReserve o.limit)
  else if o.limit ≤ o.hardReserve then .error (.hardReserveTooLarge o.hardReserve o.limit)
  else .ok ()

def widens (o : AssemblyOptions) (filename : Text) : Bool :=
  !o.noExtendSuffixes.any (·.isSuffixOf filename)

def Valid (o : AssemblyOptions) : Prop := o.softReserve < o.limit ∧ o.hardReserve < o.limit

theorem validate_eq_ok_iff (o : AssemblyOptions) : o.validate = .ok () ↔ o.Valid := by
  unfold validate Valid
  split
  · simp; omega
  · split <;> simp <;> omega

end AssemblyOptions
end DiffBudget
