import DiffBudget.Digest.Sha1
import DiffBudget.Text.Number

/-!
# Names of stored objects

An object is named by the digest of its kind, its size and its bytes, so equal objects have equal
names. The name is written in hexadecimal digits, two for each byte of the digest.
-/
namespace DiffBudget

open Utf8 (Bytes)

structure ObjectId where
  bytes : Bytes
  deriving DecidableEq, Repr

namespace ObjectId

def hexDigit (n : Nat) : Char := "0123456789abcdef".toList[n]?.getD '0'

def hexValue? (c : Char) : Option Nat :=
  if '0' ≤ c && c ≤ '9' then some (c.toNat - '0'.toNat)
  else if 'a' ≤ c && c ≤ 'f' then some (c.toNat - 'a'.toNat + 10)
  else if 'A' ≤ c && c ≤ 'F' then some (c.toNat - 'A'.toNat + 10)
  else none

def digits (id : ObjectId) : Text :=
  id.bytes.flatMap fun b => [hexDigit (b.toNat / 16), hexDigit (b.toNat % 16)]

def bytesOfDigits? : Text → Option Bytes
  | [] => some []
  | [_] => none
  | a :: b :: t => do
    let high ← hexValue? a
    let low ← hexValue? b
    return UInt8.ofNat (high * 16 + low) :: (← bytesOfDigits? t)

def ofDigits? (t : Text) : Option ObjectId := (bytesOfDigits? t).map .mk

def size : Nat := 40

def zero : ObjectId := ⟨List.replicate 20 0⟩

def ofObject (kind : Text) (payload : Bytes) : ObjectId :=
  ⟨Sha1.digest (Utf8.encode (kind ++ ' ' :: Text.ofNat payload.length ++ ['\x00']) ++ payload)⟩

def leastDigits : Nat := 7

def shortestFrom (all : List Text) (full : Text) (length : Nat) : Text :=
  if full.length ≤ length then full
  else if all.any fun t => t != full && (full.take length).isPrefixOf t then
    shortestFrom all full (length + 1)
  else full.take length
termination_by full.length - length

/-- The name shortened so that it still tells the object apart. -/
def short (all : List ObjectId) (id : ObjectId) : Text :=
  shortestFrom (all.map digits) id.digits leastDigits

theorem hexValue?_hexDigit {n : Nat} (h : n < 16) : hexValue? (hexDigit n) = some n := by
  have : ∀ m ∈ List.range 16, hexValue? (hexDigit m) = some m := by decide
  exact this n (List.mem_range.2 h)

theorem ofDigits?_digits (id : ObjectId) : ofDigits? id.digits = some id := by
  obtain ⟨bytes⟩ := id
  suffices h : bytesOfDigits? (digits ⟨bytes⟩) = some bytes by simp [ofDigits?, h]
  induction bytes with
  | nil => rfl
  | cons b t ih =>
    have hb : b.toNat < 256 := b.toNat_lt
    have hsum : UInt8.ofNat (b.toNat / 16 * 16 + b.toNat % 16) = b := by
      rw [show b.toNat / 16 * 16 + b.toNat % 16 = b.toNat by omega, UInt8.ofNat_toNat]
    simp only [digits] at ih
    simp [digits, bytesOfDigits?, hexValue?_hexDigit (show b.toNat / 16 < 16 by omega),
      hexValue?_hexDigit (show b.toNat % 16 < 16 by omega), ih, hsum, -UInt8.ofNat_add,
      -UInt8.ofNat_mul]

end ObjectId
end DiffBudget
