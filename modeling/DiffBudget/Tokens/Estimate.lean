import DiffBudget.Sum
import DiffBudget.Tokens.Piece
import DiffBudget.Unicode.Property

/-!
# Estimating tokens

Without a vocabulary the tokens of a text are estimated piece by piece. A profile says how many
characters of a letter run and of a symbol run one token covers.
-/
namespace DiffBudget

abbrev TokenCounter := Text → Nat

structure TokenProfile where
  name : Text
  wordChars : Nat
  symbolChars : Nat
  deriving DecidableEq, Repr

namespace TokenProfile

def openai : TokenProfile := ⟨"openai".toList, 4, 2⟩

def claude : TokenProfile := ⟨"claude".toList, 3, 2⟩

def asciiLower (t : Text) : Text := t.map Char.toLower

/-- A model whose name speaks of Claude has its own profile, in front of whatever provider. -/
def ofModel (model : Text) : TokenProfile :=
  if Text.occursIn "claude".toList (asciiLower model) then claude else openai

def groupsOf (size n : Nat) : Nat := (n + size - 1) / size

def bodyOf : Text → Text
  | ' ' :: t => t
  | t => t

def pieceCost (p : TokenProfile) (piece : Text) : Nat :=
  let body := bodyOf piece
  match body with
  | [] => 1
  | c :: _ =>
    if isBlank c then max (body.count '\n') 1
    else if Unicode.isAlphabetic c then groupsOf p.wordChars body.length
    else if Unicode.isNumber c then 1
    else groupsOf p.symbolChars body.length

def estimate (p : TokenProfile) : TokenCounter := fun t =>
  sumOf p.pieceCost (Piece.all t)

@[simp] theorem estimate_nil (p : TokenProfile) : p.estimate [] = 0 := by
  simp [estimate, Piece.all]

end TokenProfile
end DiffBudget
