import DiffBudget.Tokens.Estimate

/-!
# Clipping a text

A text that is too long keeps about as many of its first characters as fit, going by its average
number of characters in a token less a tenth. The cut moves back to the end of a line, and a
remark follows it.
-/
namespace DiffBudget

namespace Text

def truncationRemark : Text := "\n...(truncated)".toList

/-- How many characters of a text of `length` characters and `total` tokens to keep, computed in
double precision. -/
def keptLength (length total most : Nat) : Nat :=
  let real (n : Nat) : Float := (UInt64.ofNat n).toFloat
  (0.9 * (real length / real total) * real most).toUInt64.toNat

def upToLastLine (t : Text) : Text :=
  match cutLast? ['\n'] t with
  | some (front, _) => front
  | none => t

/-- The first `keep` characters without the last line that they reach, and the remark. -/
def clipAt (keep : Nat) (t : Text) : Text :=
  if keep = 0 then [] else upToLastLine (t.take keep) ++ truncationRemark

def clip (count : TokenCounter) (most : Nat) (t : Text) : Text :=
  if count t ≤ most then t else clipAt (keptLength t.length (count t) most) t

theorem clip_of_le {count : TokenCounter} {most : Nat} {t : Text} (h : count t ≤ most) :
    clip count most t = t := if_pos h

end Text
end DiffBudget
