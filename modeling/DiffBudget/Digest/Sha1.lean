import DiffBudget.Text.Utf8

/-!
# The digest SHA-1

A message is padded to whole blocks of 64 bytes. Every block stirs five words in eighty rounds;
a round takes one word from a window of sixteen, which starts with the words of the block and
moves on by one word a round.
-/
namespace DiffBudget.Sha1

open Utf8 (Bytes)

structure State where
  a : UInt32
  b : UInt32
  c : UInt32
  d : UInt32
  e : UInt32

def State.initial : State := ⟨0x67452301, 0xEFCDAB89, 0x98BADCFE, 0x10325476, 0xC3D2E1F0⟩

def State.add (s t : State) : State := ⟨s.a + t.a, s.b + t.b, s.c + t.c, s.d + t.d, s.e + t.e⟩

def rotateLeft (x n : UInt32) : UInt32 := (x <<< n) ||| (x >>> (32 - n))

def roundTerm (round : Nat) (s : State) : UInt32 :=
  if round < 20 then ((s.b &&& s.c) ||| (~~~s.b &&& s.d)) + 0x5A827999
  else if round < 40 then (s.b ^^^ s.c ^^^ s.d) + 0x6ED9EBA1
  else if round < 60 then ((s.b &&& s.c) ||| (s.b &&& s.d) ||| (s.c &&& s.d)) + 0x8F1BBCDC
  else (s.b ^^^ s.c ^^^ s.d) + 0xCA62C1D6

def stir (round : Nat) (word : UInt32) (s : State) : State :=
  ⟨rotateLeft s.a 5 + roundTerm round s + s.e + word, s.a, rotateLeft s.b 30, s.c, s.d⟩

def wordAt (window : List UInt32) (i : Nat) : UInt32 := window[i]?.getD 0

def nextWord (window : List UInt32) : UInt32 :=
  rotateLeft (wordAt window 13 ^^^ wordAt window 8 ^^^ wordAt window 2 ^^^ wordAt window 0) 1

def roundCount : Nat := 80

def rounds : Nat → List UInt32 → State → State
  | 0, _, s => s
  | left + 1, window, s =>
    rounds left (window.tail ++ [nextWord window])
      (stir (roundCount - (left + 1)) (wordAt window 0) s)

def absorbBlock (s : State) (block : List UInt32) : State := s.add (rounds roundCount block s)

def absorb (s : State) (words : List UInt32) : State :=
  match _h : words.drop 15 with
  | [] => s
  | _ :: rest => absorb (absorbBlock s (words.take 16)) rest
termination_by words.length
decreasing_by
  have := congrArg List.length _h
  simp only [List.length_drop, List.length_cons] at this
  omega

/-! ## Bytes and words -/

def bytesOf (n : Nat) : Nat → Bytes
  | 0 => []
  | count + 1 => UInt8.ofNat (n / Nat.pow 256 count) :: bytesOf n count

def wordsOf : Bytes → List UInt32
  | a :: b :: c :: d :: t =>
    UInt32.ofNat (((a.toNat * 256 + b.toNat) * 256 + c.toNat) * 256 + d.toNat) :: wordsOf t
  | _ => []

/-- The message, one set bit, zeros, and the number of bits of the message. -/
def padded (message : Bytes) : Bytes :=
  message ++ 0x80 :: List.replicate ((119 - message.length % 64) % 64) 0 ++
    bytesOf (8 * message.length) 8

def State.bytes (s : State) : Bytes :=
  [s.a, s.b, s.c, s.d, s.e].flatMap fun w => bytesOf w.toNat 4

def digest (message : Bytes) : Bytes := (absorb .initial (wordsOf (padded message))).bytes

theorem length_bytesOf (n count : Nat) : (bytesOf n count).length = count := by
  induction count with
  | zero => rfl
  | succ count ih => simp [bytesOf, ih]

theorem length_digest (message : Bytes) : (digest message).length = 20 := by
  simp [digest, State.bytes, length_bytesOf]

theorem length_padded (message : Bytes) : 64 ∣ (padded message).length := by
  simp only [padded, List.length_append, List.length_cons, List.length_replicate, length_bytesOf]
  omega

end DiffBudget.Sha1
