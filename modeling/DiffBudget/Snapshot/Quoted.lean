import DiffBudget.Text.Utf8

/-!
# Paths in a diff

A path is written as it is, unless it holds a character that could be misread: a control
character, a double quote, a backslash, or anything outside ASCII. Then it stands between double
quotes and those characters are escaped, byte by byte in octal where no letter names them.
-/
namespace DiffBudget.Path

def octalByte (n : Nat) : Text := ['\\', digit (n / 64), digit (n / 8 % 8), digit (n % 8)]
where
  digit (n : Nat) : Char := Char.ofNat ('0'.toNat + n)

def escape (c : Char) : Text :=
  match c with
  | '\x07' => ['\\', 'a']
  | '\x08' => ['\\', 'b']
  | '\t' => ['\\', 't']
  | '\n' => ['\\', 'n']
  | '\x0b' => ['\\', 'v']
  | '\x0c' => ['\\', 'f']
  | '\r' => ['\\', 'r']
  | '"' => ['\\', '"']
  | '\\' => ['\\', '\\']
  | c => if ' ' ≤ c && c < '\x7f' then [c] else (Utf8.encode [c]).flatMap fun b => octalByte b.toNat

def quotes (t : Text) : Text := '"' :: t ++ ['"']

def quoted (front p : Text) : Text :=
  let body := (front ++ p).flatMap escape
  if body = front ++ p then body else quotes body

/-- As `quoted`, with quotes around a path that holds a space, too. -/
def quotedForStatus (p : Text) : Text :=
  let body := quoted [] p
  if body.head? != some '"' && p.contains ' ' then quotes body else body

theorem quoted_of_plain {front p : Text} (h : ∀ c ∈ front ++ p, escape c = [c]) :
    quoted front p = front ++ p := by
  have : (front ++ p).flatMap escape = front ++ p := by
    generalize front ++ p = t at h
    induction t with
    | nil => rfl
    | cons c t ih =>
      simp only [List.flatMap_cons, h c (by simp), ih fun d hd => h d (by simp [hd])]
      rfl
  simp [quoted, this]

end DiffBudget.Path
