import DiffBudget.Text.Lines

/-!
# Decimal numbers of machine size

Numbers are written in decimal without leading zeros. A run of ASCII digits reads as a number
when its value fits into 64 bits. Sums that have to stay in range stop at the largest number, and
sums that nobody checks go on from 0 behind it.
-/
namespace DiffBudget

def maxNumber : Nat := 18446744073709551615

def saturatingAdd (a b : Nat) : Nat := min (a + b) maxNumber

/-- The sum, counted on from 0 when it passes the largest number. -/
def wrappingAdd (a b : Nat) : Nat := (a + b) % (maxNumber + 1)

namespace Text

def isDigit (c : Char) : Bool := '0' ≤ c && c ≤ '9'

def ofNat (n : Nat) : Text := Nat.toDigits 10 n

def valueIn (base : Nat) (digit : Char → Nat) (ds : Text) : Nat :=
  ds.foldl (fun n c => n * base + digit c) 0

def decimalDigit (c : Char) : Nat := c.toNat - '0'.toNat

def number? (ds : Text) : Option Nat :=
  if ds.isEmpty || ds.any (! isDigit ·) then none
  else
    let n := valueIn 10 decimalDigit ds
    if n ≤ maxNumber then some n else none

theorem number?_le {ds : Text} {n : Nat} (h : number? ds = some n) : n ≤ maxNumber := by
  unfold number? at h
  split at h
  · simp at h
  · simp only [Option.ite_none_right_eq_some, Option.some.injEq] at h
    omega

end Text

theorem saturatingAdd_le (a b : Nat) : saturatingAdd a b ≤ maxNumber := Nat.min_le_right _ _

theorem wrappingAdd_of_le {a b : Nat} (h : a + b ≤ maxNumber) : wrappingAdd a b = a + b :=
  Nat.mod_eq_of_lt (Nat.lt_succ_of_le h)

theorem saturatingAdd_of_le {a b : Nat} (h : a + b ≤ maxNumber) : saturatingAdd a b = a + b :=
  Nat.min_eq_left h

end DiffBudget
