import DiffBudget.Glob.Basic

/-!
# Reading globs

A glob is read from left to right. Two stars are special only where they make up a whole part of
a path; elsewhere they are two stars. A comma parts alternatives only inside braces, which may be
nested, and a backslash takes the next character as it is.
-/
namespace DiffBudget.Glob

inductive Fault
  | unclosedClass
  | invertedRange (low high : Char)
  | unclosedBrace
  | unopenedBrace
  | danglingEscape
  deriving DecidableEq, Repr

def Fault.message : Fault → Text
  | .unclosedClass => "unclosed character class; missing ']'".toList
  | .invertedRange low high =>
    "invalid character range; '".toList ++ [low] ++ "' > '".toList ++ [high] ++ ['\'']
  | .unclosedBrace => "unclosed alternate group; missing closing brace".toList
  | .unopenedBrace => "unopened alternate group; missing opening brace".toList
  | .danglingEscape => "dangling '\\'".toList

/-- The ranges of a class, the last one first, and the text behind its closing bracket. A bracket
or a hyphen at the front stands for itself, and so does a hyphen at the end. -/
def classRanges (ranges : List (Char × Char)) (first inRange : Bool) :
    Text → Except Fault (List (Char × Char) × Text)
  | [] => .error .unclosedClass
  | c :: t =>
    if c = ']' ∧ !first then .ok (if inRange then ('-', '-') :: ranges else ranges, t)
    else if c = '-' ∧ !first ∧ !inRange then classRanges ranges false true t
    else
      match inRange, ranges with
      | true, (low, _) :: rest =>
        if c < low then .error (.invertedRange low c)
        else classRanges ((low, c) :: rest) false false t
      | _, _ => classRanges ((c, c) :: ranges) false false t

theorem classRanges_length {ranges : List (Char × Char)} {first inRange : Bool} {t r : Text}
    {out : List (Char × Char)} (h : classRanges ranges first inRange t = .ok (out, r)) :
    r.length ≤ t.length := by
  induction t generalizing ranges first inRange with
  | nil => simp [classRanges] at h
  | cons c t ih =>
    simp only [classRanges] at h
    split at h
    · simp only [Except.ok.injEq, Prod.mk.injEq] at h
      simp [h.2]
    · split at h
      · exact Nat.le_succ_of_le (ih h)
      · split at h
        · split at h
          · simp at h
          · exact Nat.le_succ_of_le (ih h)
        · exact Nat.le_succ_of_le (ih h)

def classSign : Text → Bool × Text
  | '!' :: t => (true, t)
  | '^' :: t => (true, t)
  | t => (false, t)

theorem classSign_length (t : Text) : (classSign t).2.length ≤ t.length := by
  unfold classSign; split <;> simp

def readClass (t : Text) : Except Fault (Token × Text) :=
  match classRanges [] true false (classSign t).2 with
  | .error e => .error e
  | .ok (ranges, r) => .ok (.charClass (classSign t).1 ranges.reverse, r)

theorem readClass_length {t r : Text} {token : Token} (h : readClass t = .ok (token, r)) :
    r.length ≤ t.length := by
  unfold readClass at h
  split at h
  · simp at h
  · rename_i ranges rest hc
    simp only [Except.ok.injEq, Prod.mk.injEq] at h
    exact h.2 ▸ Nat.le_trans (classRanges_length hc) (classSign_length t)

/-- A group of alternatives that has been opened: the branches before the current one and the
tokens of the current one, the last of each first. -/
structure Group where
  branches : List (List Token)
  tokens : List Token

/-- The current branch, the branches before it in its group, the groups around it, and the
character read last. -/
structure Reading where
  tokens : List Token := []
  branches : List (List Token) := []
  outer : List Group := []
  last : Option Char := none

namespace Reading

def push (r : Reading) (token : Token) (last : Char) : Reading :=
  { r with tokens := token :: r.tokens, last := some last }

def isOuter (r : Reading) : Bool := r.outer.isEmpty

def twoStars (r : Reading) : Reading := (r.push .anyBytes '*').push .anyBytes '*'

/-- Two stars that make up a part of a path, in place of the token before them. -/
def directories (r : Reading) (atEnd : Bool) (last : Char) : Reading :=
  let rest := r.tokens.tail
  let token := match r.tokens with
    | .leadingDirs :: _ => .leadingDirs
    | .descendants :: _ => .descendants
    | _ => if atEnd then .descendants else .innerDirs
  { r with tokens := token :: rest, last := some last }

def atPartStart (r : Reading) : Bool :=
  r.last == some '/' || (!r.isOuter && (r.last == some ',' || r.last == some '\x7b'))

def stars (r : Reading) (next : Option Char) : Reading × Bool :=
  if r.tokens.isEmpty then
    match next with
    | none => (r.push .leadingDirs '*', false)
    | some '/' => (r.push .leadingDirs '/', true)
    | some _ => (r.twoStars, false)
  else if !r.atPartStart then (r.twoStars, false)
  else
    match next with
    | none => (r.directories true '*', false)
    | some '/' => (r.directories false '/', true)
    | some c =>
      if (c = ',' ∨ c = '\x7d') ∧ !r.isOuter then (r.directories true '*', false)
      else (r.twoStars, false)

def openGroup (r : Reading) : Reading :=
  { tokens := [], branches := [], outer := ⟨r.branches, r.tokens⟩ :: r.outer
    last := some '\x7b' }

def nextBranch (r : Reading) : Reading :=
  { r with tokens := [], branches := r.tokens.reverse :: r.branches, last := some ',' }

def closeGroup? (r : Reading) : Option Reading :=
  match r.outer with
  | [] => none
  | g :: outer =>
    some { tokens := .alternates ((r.tokens.reverse :: r.branches).reverse) :: g.tokens
           branches := g.branches, outer, last := some '\x7d' }

end Reading

def readFrom (r : Reading) : Text → Except Fault (List Token)
  | [] => if r.isOuter then .ok r.tokens.reverse else .error .unclosedBrace
  | '*' :: '*' :: t =>
    let (r, takesSlash) := r.stars t.head?
    match t, takesSlash with
    | _ :: t, true => readFrom r t
    | t, _ => readFrom r t
  | '*' :: t => readFrom (r.push .anyBytes '*') t
  | '?' :: t => readFrom (r.push .anyByte '?') t
  | '[' :: t =>
    match _h : readClass t with
    | .error e => .error e
    | .ok (token, rest) => readFrom (r.push token ']') rest
  | '\x7b' :: t => readFrom r.openGroup t
  | '\x7d' :: t =>
    match r.closeGroup? with
    | none => .error .unopenedBrace
    | some r => readFrom r t
  | ',' :: t => readFrom (if r.isOuter then r.push (.literal ',') ',' else r.nextBranch) t
  | '\\' :: c :: t => readFrom (r.push (.literal c) c) t
  | ['\\'] => .error .danglingEscape
  | c :: t => readFrom (r.push (.literal c) c) t
termination_by t => t.length
decreasing_by
  all_goals simp_wf
  all_goals try omega
  have := readClass_length _h
  omega

def parse (glob : Text) : Except Fault (List Token) := readFrom {} glob

end DiffBudget.Glob
