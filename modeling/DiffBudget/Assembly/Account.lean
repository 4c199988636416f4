import DiffBudget.Assembly.Options

/-!
# The token account

A running total that starts with the tokens of the prompt and stops at the largest number, and
three questions about it: whether the soft reserve is still free, whether more tokens fit without
touching it, and whether the total has gone into the hard reserve.
-/
namespace DiffBudget

structure Account where
  limit : Nat
  softReserve : Nat
  hardReserve : Nat
  total : Nat
  deriving DecidableEq, Repr

namespace Account

def start (o : AssemblyOptions) (promptTokens : Nat) : Account :=
  ⟨o.limit, o.softReserve, o.hardReserve, promptTokens⟩

def charge (a : Account) (tokens : Nat) : Account :=
  { a with total := saturatingAdd a.total tokens }

def chargeAll (a : Account) (charges : List Nat) : Account := charges.foldl charge a

def withinSoftReserve (a : Account) : Bool := saturatingAdd a.total a.softReserve < a.limit

def admits (a : Account) (tokens : Nat) : Bool :=
  saturatingAdd a.total tokens ≤ a.limit - a.softReserve

def pastHardFloor (a : Account) : Bool := a.limit - a.hardReserve < a.total

@[simp] theorem charge_limit (a : Account) (n : Nat) : (a.charge n).limit = a.limit := rfl

@[simp] theorem charge_softReserve (a : Account) (n : Nat) :
    (a.charge n).softReserve = a.softReserve := rfl

@[simp] theorem charge_hardReserve (a : Account) (n : Nat) :
    (a.charge n).hardReserve = a.hardReserve := rfl

theorem charge_total (a : Account) (n : Nat) :
    (a.charge n).total = min (a.total + n) maxNumber := rfl

theorem le_charge_total {a : Account} (h : a.total ≤ maxNumber) (n : Nat) :
    a.total ≤ (a.charge n).total := by
  rw [charge_total]; omega

end Account
end DiffBudget
