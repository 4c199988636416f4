import DiffBudget.Text.Utf8

/-!
# Globs

A glob describes whole paths byte by byte. A question mark is any byte and a star any bytes,
slashes included. Two stars between slashes stand for any directories, none included; at the
front they may also stand for the start of a path, and at the end for everything below a
directory. Alternatives that say nothing are left out.
-/
namespace DiffBudget.Glob

open Utf8 (Bytes)

inductive Token
  | literal (c : Char)
  | anyByte
  | anyBytes
  /-- Two stars and a slash at the front. -/
  | leadingDirs
  /-- A slash and two stars at the end. -/
  | descendants
  /-- A slash, two stars and a slash. -/
  | innerDirs
  | charClass (negated : Bool) (ranges : List (Char × Char))
  | alternates (branches : List (List Token))

/-- The byte ranges of a class. A range of two characters is one of the last byte of the first
to the first byte of the second; the other bytes stand alone. -/
def byteRanges (r : Char × Char) : List (UInt8 × UInt8) :=
  let single (b : UInt8) : UInt8 × UInt8 := (b, b)
  let first := String.utf8EncodeChar r.1
  let last := String.utf8EncodeChar r.2
  if r.1 = r.2 then first.map single
  else
    first.dropLast.map single ++
      [(first.getLast?.getD 0, last.head?.getD 0)] ++ last.tail.map single

def classHas (ranges : List (Char × Char)) (b : UInt8) : Bool :=
  (ranges.flatMap byteRanges).any fun r => r.1 ≤ b && b ≤ r.2

def slash : UInt8 := 47

def ends : Bytes → List Bytes
  | [] => [[]]
  | b :: s => (b :: s) :: ends s

/-- What is left of a path after some directories: what follows any of its slashes. -/
def afterSlashes (s : Bytes) : List Bytes :=
  (ends s).filterMap fun
    | b :: r => if b = slash then some r else none
    | [] => none

def distinct (ss : List Bytes) : List Bytes := ss.eraseDups

mutual
def saysNothing : List Token → Bool
  | [] => true
  | .alternates branches :: ts => allSayNothing branches && saysNothing ts
  | _ :: _ => false

def allSayNothing : List (List Token) → Bool
  | [] => true
  | b :: bs => saysNothing b && allSayNothing bs
end

mutual
/-- What can be left of a path after one token. -/
def Token.rests (s : Bytes) : Token → List Bytes
  | .literal c =>
    match (String.utf8EncodeChar c).isPrefixOf? s with
    | some r => [r]
    | none => []
  | .anyByte => if s.isEmpty then [] else [s.tail]
  | .anyBytes => ends s
  | .leadingDirs =>
    s :: afterSlashes s
  | .descendants => if s.head? = some slash then ends s.tail else []
  | .innerDirs =>
    if s.head? = some slash then s.tail :: afterSlashes s.tail else []
  | .charClass negated ranges =>
    match s with
    | [] => []
    | b :: r => if classHas ranges b != negated then [r] else []
  | .alternates branches => if allSayNothing branches then [s] else branchRests s branches

def tokenRests (s : Bytes) : List Token → List Bytes
  | [] => [s]
  | t :: ts => distinct ((t.rests s).flatMap fun r => tokenRests r ts)

def branchRests (s : Bytes) : List (List Token) → List Bytes
  | [] => []
  | b :: bs => (if saysNothing b then [] else tokenRests s b) ++ branchRests s bs
end

/-! ## Nesting

Globs are matched by expressions over bytes, in which every group, every choice, every repetition
and every run of two parts or more is one level. -/

/-- How many parts the token is: a literal character is one for each of its bytes. -/
def Token.parts : Token → Nat
  | .literal c => (String.utf8EncodeChar c).length
  | .descendants => 2
  | .alternates branches => if allSayNothing branches then 0 else 1
  | _ => 1

def runDepth (parts deepest : Nat) : Nat := if 2 ≤ parts then deepest + 1 else deepest

mutual
def Token.depth : Token → Nat
  | .literal _ | .anyByte => 0
  | .anyBytes | .descendants => 1
  | .leadingDirs | .innerDirs => 4
  | .charClass _ ranges => runDepth (ranges.flatMap byteRanges).length 1
  | .alternates branches =>
    if allSayNothing branches then 0
    else runDepth (branches.filter (!saysNothing ·)).length (branchesDepth branches) + 1

def tokensDepth : List Token → Nat
  | [] => 0
  | t :: ts => max t.depth (tokensDepth ts)

def branchesDepth : List (List Token) → Nat
  | [] => 0
  | b :: bs => max (runDepth (sumOf Token.parts b) (tokensDepth b)) (branchesDepth bs)
end

def maxDepth : Nat := 250

def isTooDeep (ts : List Token) : Bool := maxDepth < tokensDepth ts + 1

def isLiteral : Token → Bool
  | .literal _ => true
  | _ => false

def literalExtension? (ts : List Token) : Option Text :=
  let back := ts.reverse.takeWhile fun
    | .literal c => c != '.'
    | _ => false
  match ts.reverse.drop back.length with
  | .literal '.' :: _ =>
    let name := back.reverse.filterMap fun
      | .literal c => some c
      | _ => none
    if name.contains '/' then none else some name
  | _ => none

/-- Whether a glob is looked up by the name of a file or by its extension alone: it ends in a
literal dot, and it is neither a plain path nor the plain end of one. -/
def needsName (ts : List Token) : Bool :=
  let body := match ts with
    | .leadingDirs :: r => r
    | r => r
  let isSuffix (r : List Token) : Bool := !r.isEmpty && r.all isLiteral
  if literalExtension? ts != some [] then false
  else if ts.all isLiteral then false
  else
    match ts, body with
    | _, .anyBytes :: [.literal '.'] => true
    | _, .anyBytes :: r => !isSuffix r
    | .leadingDirs :: _, r =>
      !isSuffix r || !r.any fun
        | .literal '/' => true
        | _ => false
    | _, _ => true

def endsInStepUp (path : Bytes) : Bool :=
  path == [46, 46] || [slash, 46, 46].isSuffixOf path

/-- Whether the glob describes the path. A path that ends in a step up has no file name, so no glob
that needs one describes it. -/
def describes (ts : List Token) (path : Bytes) : Bool :=
  match ts with
  | [.leadingDirs] => true
  | _ => (tokenRests path ts).contains [] && !(needsName ts && endsInStepUp path)

end DiffBudget.Glob
