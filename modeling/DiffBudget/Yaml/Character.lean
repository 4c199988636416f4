import DiffBudget.Text.Number

/-!
# Characters of a YAML stream

Which characters may stand in a stream, which of them end a line, and which only separate words.
A line that ends with a carriage return, with both characters or with the next-line character
reads as one that ends with a line feed; the two Unicode separators stay what they are.
-/
namespace DiffBudget.Yaml

def isAllowed (c : Char) : Bool :=
  let n := c.toNat
  n == 0x9 || n == 0xA || n == 0xD || (0x20 ≤ n && n ≤ 0x7E) || n == 0x85 ||
    (0xA0 ≤ n && n ≤ 0xFFFD) || 0x10000 ≤ n

def unifyBreaks : Text → Text
  | [] => []
  | '\r' :: '\n' :: t => '\n' :: unifyBreaks t
  | c :: t => (if c == '\r' || c == '\u0085' then '\n' else c) :: unifyBreaks t

def isBreak (c : Char) : Bool := c == '\n' || c == '\u2028' || c == '\u2029'

def isGap (c : Char) : Bool := c == ' ' || c == '\t'

def isWhite (c : Char) : Bool := isGap c || isBreak c

def isNameChar (c : Char) : Bool :=
  ('a' ≤ c && c ≤ 'z') || ('A' ≤ c && c ≤ 'Z') || Text.isDigit c || c == '-' || c == '_'

def atWordEnd : Text → Bool
  | [] => true
  | c :: _ => isWhite c

def atLineEnd : Text → Bool
  | [] => true
  | c :: _ => isBreak c

def documentStartMark : Text := "---".toList

def documentEndMark : Text := "...".toList

def opensWith (mark t : Text) : Bool :=
  match mark.isPrefixOf? t with
  | some rest => atWordEnd rest
  | none => false

def atDocumentMark (t : Text) : Bool :=
  opensWith documentStartMark t || opensWith documentEndMark t

def skipLineRest (t : Text) : Text :=
  match t.dropWhile isGap with
  | '#' :: r => r.dropWhile (!isBreak ·)
  | r => r

def afterBreak : Text → Text
  | [] => []
  | c :: t => if isBreak c then t else c :: t

def hexDigit? (c : Char) : Option Nat :=
  if Text.isDigit c then some (c.toNat - '0'.toNat)
  else if 'a' ≤ c && c ≤ 'f' then some (c.toNat - 'a'.toNat + 10)
  else if 'A' ≤ c && c ≤ 'F' then some (c.toNat - 'A'.toNat + 10)
  else none

theorem unifyBreaks_of_plain {t : Text} (h : ∀ c ∈ t, c ≠ '\r' ∧ c ≠ '\u0085') :
    unifyBreaks t = t := by
  fun_induction unifyBreaks t with
  | case1 => rfl
  | case2 t _ => exact absurd rfl (h '\r' (by simp)).1
  | case3 c t _ ih =>
    have hc := h c (by simp)
    rw [ih fun d hd => h d (by simp [hd])]
    simp [hc.1, hc.2]

end DiffBudget.Yaml
