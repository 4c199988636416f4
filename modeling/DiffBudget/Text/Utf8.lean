import DiffBudget.Text.Lines

/-!
# UTF-8

Bytes are read as a list of pieces: a character, or nothing for a maximal ill-formed run of
bytes. Strict decoding asks every piece to be a character, lossy decoding puts the replacement
character in place of each ill-formed run.
-/
namespace DiffBudget.Utf8

abbrev Bytes := List UInt8

/-- What the first byte of a sequence of several bytes says about the rest: how many bytes
follow, the range of the next one, and the bits that the first byte holds. -/
structure Lead where
  following : Nat
  low : UInt8
  high : UInt8
  bits : Nat

def lead? (a : UInt8) : Option Lead :=
  let n := a.toNat
  if 0xC2 ≤ n && n ≤ 0xDF then some ⟨1, 0x80, 0xBF, n - 0xC0⟩
  else if n == 0xE0 then some ⟨2, 0xA0, 0xBF, 0⟩
  else if n == 0xED then some ⟨2, 0x80, 0x9F, 13⟩
  else if 0xE1 ≤ n && n ≤ 0xEF then some ⟨2, 0x80, 0xBF, n - 0xE0⟩
  else if n == 0xF0 then some ⟨3, 0x90, 0xBF, 0⟩
  else if 0xF1 ≤ n && n ≤ 0xF3 then some ⟨3, 0x80, 0xBF, n - 0xF0⟩
  else if n == 0xF4 then some ⟨3, 0x80, 0x8F, 4⟩
  else none

def isTail (b : UInt8) : Bool := 0x80 ≤ b && b ≤ 0xBF

def extendBits (bits : Nat) (b : UInt8) : Nat := bits * 64 + b.toNat % 64

def pieces : Bytes → List (Option Char)
  | [] => []
  | a :: t =>
    if a < 0x80 then some (Char.ofNat a.toNat) :: pieces t
    else
      match lead? a with
      | none => none :: pieces t
      | some l =>
        match t with
        | [] => [none]
        | b :: t₁ =>
          if !(l.low ≤ b && b ≤ l.high) then none :: pieces (b :: t₁)
          else if l.following == 1 then some (Char.ofNat (extendBits l.bits b)) :: pieces t₁
          else
            match t₁ with
            | [] => [none]
            | c :: t₂ =>
              if !isTail c then none :: pieces (c :: t₂)
              else if l.following == 2 then
                some (Char.ofNat (extendBits (extendBits l.bits b) c)) :: pieces t₂
              else
                match t₂ with
                | [] => [none]
                | d :: t₃ =>
                  if !isTail d then none :: pieces (d :: t₃)
                  else
                    some (Char.ofNat (extendBits (extendBits (extendBits l.bits b) c) d)) ::
                      pieces t₃

def decode? (bytes : Bytes) : Option Text := (pieces bytes).mapM id

def decodeLossy (bytes : Bytes) : Text := (pieces bytes).map (·.getD '\uFFFD')

def encode (t : Text) : Bytes := t.flatMap String.utf8EncodeChar

@[simp] theorem decode?_nil : decode? [] = some [] := rfl

@[simp] theorem encode_nil : encode [] = [] := rfl

end DiffBudget.Utf8
