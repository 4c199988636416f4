import DiffBudget.Sum

/-!
# Texts and their lines

A text is a list of Unicode characters. A line ends at a line feed; one carriage return
directly before the line feed belongs to the ending, and no empty line follows a final line
feed. A carriage return at the very end of a text stays in its line.
-/
namespace DiffBudget

abbrev Text := List Char

namespace Text

def lines : Text → List Text
  | [] => []
  | '\n' :: t => [] :: lines t
  | '\r' :: '\n' :: t => [] :: lines t
  | c :: t =>
    match lines t with
    | [] => [[c]]
    | l :: ls => (c :: l) :: ls

/-- The lines with one line feed between neighbours and none at the end. -/
def joinLines (ls : List Text) : Text := ['\n'].intercalate ls

def unlines (ls : List Text) : Text := ls.flatMap (· ++ ['\n'])

@[simp] theorem lines_nil : lines [] = [] := rfl

@[simp] theorem lines_newline (t : Text) : lines ('\n' :: t) = [] :: lines t := by
  simp [lines]

@[simp] theorem unlines_nil : unlines [] = [] := rfl

@[simp] theorem unlines_cons (l : Text) (ls : List Text) :
    unlines (l :: ls) = l ++ '\n' :: unlines ls := by
  simp [unlines]

@[simp] theorem joinLines_nil : joinLines [] = [] := rfl

@[simp] theorem joinLines_singleton (l : Text) : joinLines [l] = l := by
  simp [joinLines]

theorem joinLines_cons_cons (l next : Text) (ls : List Text) :
    joinLines (l :: next :: ls) = l ++ '\n' :: joinLines (next :: ls) := by
  simp [joinLines, List.intercalate_cons_cons]

def occursIn (needle : Text) : Text → Bool
  | [] => needle.isEmpty
  | c :: t => needle.isPrefixOf (c :: t) || occursIn needle t

def cutLast? (mark : Text) : Text → Option (Text × Text)
  | [] => none
  | c :: t =>
    match cutLast? mark t with
    | some (front, back) => some (c :: front, back)
    | none => (mark.isPrefixOf? (c :: t)).map (([], ·))

def cutFirst? (mark : Text) : Text → Option (Text × Text)
  | [] => none
  | c :: t =>
    match mark.isPrefixOf? (c :: t) with
    | some back => some ([], back)
    | none => (cutFirst? mark t).map fun p => (c :: p.1, p.2)

def cutAt (isMark : Char → Bool) : Text → List Text
  | [] => [[]]
  | c :: t =>
    if isMark c then [] :: cutAt isMark t
    else
      match cutAt isMark t with
      | [] => [[c]]
      | p :: ps => (c :: p) :: ps

def byteCount (t : Text) : Nat := sumOf Char.utf8Size t

end Text
end DiffBudget
