import DiffBudget.Yaml.Character

/-!
# What a plain scalar stands for

A plain scalar without a tag may be read as nothing, as a truth value, as an integer or as a
floating-point number; every other one is a text. Integers have a base told by `0x`, `0o` or `0b`,
and decimal ones no leading zeros.
-/
namespace DiffBudget.Yaml

def isNullWord (t : Text) : Bool :=
  ["null".toList, "Null".toList, "NULL".toList, "~".toList].contains t

def bool? (t : Text) : Option Bool :=
  if ["true".toList, "True".toList, "TRUE".toList].contains t then some true
  else if ["false".toList, "False".toList, "FALSE".toList].contains t then some false
  else none

/-! ## Integers -/

def bases : List (Text × Nat) := [("0x".toList, 16), ("0o".toList, 8), ("0b".toList, 2)]

def digits? (base : Nat) (t : Text) : Option Nat := do
  guard !t.isEmpty
  t.foldlM (fun n c => do
    let d ← hexDigit? c
    guard (d < base)
    return n * base + d) 0

def based? (t : Text) : Option Nat :=
  bases.findSome? fun b => (b.1.isPrefixOf? t).bind (digits? b.2)

def dropSign (marks t : Text) : Text :=
  match t with
  | c :: r => if marks.contains c then r else t
  | [] => []

/-- More than one digit with a zero in front: a text, whatever stands before it as a sign. -/
def hasLeadingZero (t : Text) : Bool :=
  match dropSign "+-".toList t with
  | '0' :: c :: r => (c :: r).all Text.isDigit
  | _ => false

def natural? (t : Text) : Option Nat :=
  let digits := dropSign "+".toList t
  (based? digits).or (if hasLeadingZero t then none else digits? 10 digits)

def negative? : Text → Option Nat
  | '-' :: t => (based? t).or (if hasLeadingZero t then none else digits? 10 t)
  | _ => none

def isInteger (t : Text) : Bool :=
  (natural? t).any (· < Nat.pow 2 128) || (negative? t).any (· ≤ Nat.pow 2 127)

/-! ## Floating-point numbers -/

/-- A decimal number: its digits as a whole number, and the power of ten they are taken by. -/
structure Decimal where
  digits : Nat
  exponent : Int

def signedDigits? (t : Text) : Option Int :=
  match t with
  | '-' :: r => (digits? 10 r).map fun n => -(n : Int)
  | '+' :: r => (digits? 10 r).map Int.ofNat
  | r => (digits? 10 r).map Int.ofNat

def decimal? (t : Text) : Option Decimal := do
  let whole := t.takeWhile Text.isDigit
  let (fraction, rest) := match t.dropWhile Text.isDigit with
    | '.' :: r => (r.takeWhile Text.isDigit, r.dropWhile Text.isDigit)
    | r => ([], r)
  let digits ← digits? 10 (whole ++ fraction)
  let exponent ← match rest with
    | [] => some 0
    | c :: r => if c == 'e' || c == 'E' then signedDigits? r else none
  return ⟨digits, exponent - fraction.length⟩

def infinityBound : Nat := Nat.pow 2 1024 - Nat.pow 2 970

/-- Whether the number stays finite in double precision. Numbers of more than 310 digits before
the point do not; a negative exponent may drop as many digits. -/
def Decimal.isFinite (d : Decimal) : Bool :=
  if d.digits == 0 then true
  else
    let places : Int := (Nat.toDigits 10 d.digits).length + d.exponent
    if places ≤ 300 then true
    else if 310 < places then false
    else if 0 ≤ d.exponent then d.digits * Nat.pow 10 d.exponent.toNat < infinityBound
    else d.digits < infinityBound * Nat.pow 10 (-d.exponent).toNat

def infinityWords : List Text := [".inf".toList, ".Inf".toList, ".INF".toList]

def nanWords : List Text := [".nan".toList, ".NaN".toList, ".NAN".toList]

def isFloat (t : Text) : Bool :=
  let unsigned := dropSign "+-".toList t
  infinityWords.contains unsigned || nanWords.contains t ||
    (decimal? unsigned).any Decimal.isFinite

/-- Whether a plain scalar with this text would not be read as a text, or has leading zeros. -/
def isAmbiguous (t : Text) : Bool :=
  t.isEmpty || isNullWord t || (bool? t).isSome || isInteger t || hasLeadingZero t || isFloat t

end DiffBudget.Yaml
