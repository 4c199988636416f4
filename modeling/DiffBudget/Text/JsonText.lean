import DiffBudget.Text.Number

/-!
# JSON in lines

An object is printed with one field in a line, two spaces deeper than its braces, and so is a list
with its items. A text stands between double quotes; quotes, backslashes and control characters
are escaped in it.
-/
namespace DiffBudget.JsonText

def hexDigit (n : Nat) : Char := if n < 10 then Char.ofNat (48 + n) else Char.ofNat (87 + n)

def escape (c : Char) : Text :=
  match c with
  | '"' => ['\\', '"']
  | '\\' => ['\\', '\\']
  | '\x08' => ['\\', 'b']
  | '\x0c' => ['\\', 'f']
  | '\n' => ['\\', 'n']
  | '\r' => ['\\', 'r']
  | '\t' => ['\\', 't']
  | c =>
    if c.toNat < 32 then "\\u00".toList ++ [hexDigit (c.toNat / 16), hexDigit (c.toNat % 16)]
    else [c]

def string (t : Text) : Text := '"' :: t.flatMap escape ++ ['"']

def bool (b : Bool) : Text := (if b then "true" else "false").toList

def bracketed (openBracket closeBracket : Char) (indent : Nat) (items : List Text) : Text :=
  if items.isEmpty then [openBracket, closeBracket]
  else
    let front := '\n' :: List.replicate (indent + 2) ' '
    openBracket :: [','].intercalate (items.map (front ++ ·)) ++
      '\n' :: List.replicate indent ' ' ++ [closeBracket]

def list (indent : Nat) (items : List Text) : Text := bracketed '[' ']' indent items

def object (indent : Nat) (fields : List (Text × Text)) : Text :=
  bracketed '\x7b' '\x7d' indent (fields.map fun f => string f.1 ++ ": ".toList ++ f.2)

theorem newline_not_mem_string (t : Text) : '\n' ∉ string t := by
  have hdigit : ∀ n < 32, '\n' ∉ [hexDigit (n / 16), hexDigit (n % 16)] := by decide
  have hescape (c : Char) : '\n' ∉ escape c := by
    unfold escape
    split
    case h_8 =>
      split
      next h => simpa using hdigit c.toNat h
      next => rw [List.mem_singleton]; exact fun h => absurd h.symm (by assumption)
    all_goals decide
  simp only [string, List.cons_append, List.mem_cons, List.mem_append, List.mem_flatMap,
    List.not_mem_nil, or_false, not_or]
  exact ⟨by decide, fun ⟨c, _, hc⟩ => hescape c hc, by decide⟩

end DiffBudget.JsonText
