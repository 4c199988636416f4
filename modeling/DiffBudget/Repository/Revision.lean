import DiffBudget.Repository.Basic

/-!
# Revisions

A revision names a commit: by a branch, a tag, the beginning of its name in hexadecimal digits,
or by its place in the history of another revision. Suffixes are read from the last to the first:
a count of generations, a parent, a kind of object that is asked for, or a text in the message.
-/
namespace DiffBudget

inductive ObjectKind
  | commit
  | tree
  | blob
  | tag
  | any
  deriving DecidableEq, Repr

inductive Revision
  | name (t : Text)
  /-- The parent with the given number; the commit itself for zero. -/
  | parent (n : Nat) (of : Revision)
  | ancestor (n : Nat) (of : Revision)
  | asKind (kind : ObjectKind) (of : Revision)
  | matching (part : Text) (of : Revision)
  /-- Where a branch was the given number of changes ago. -/
  | earlier (n : Nat) (branch : Text)
  deriving DecidableEq, Repr

namespace Revision

inductive Suffix
  | generations (n : Nat)
  | parent (n : Nat)
  | kind (kind : ObjectKind)
  | message (part : Text)
  | change (n : Nat)
  deriving DecidableEq, Repr

def ObjectKind.ofName? (t : Text) : Option ObjectKind :=
  match String.ofList t with
  | "commit" => some .commit
  | "tree" => some .tree
  | "blob" => some .blob
  | "tag" => some .tag
  | "object" => some .any
  | "" => some .any
  | _ => none

def braced? (mark : Text) (t : Text) : Option (Text × Text) :=
  if t.getLast? = some '\x7d' then Text.cutLast? (mark ++ ['\x7b']) t.dropLast else none

/-- A count of generations or of a parent, where no digits stand for one. -/
def counted? (t : Text) : Option (Text × Suffix) :=
  let ds := (t.reverse.takeWhile Text.isDigit).reverse
  let front := t.take (t.length - ds.length)
  let n := if ds.isEmpty then 1 else Text.valueIn 10 Text.decimalDigit ds
  match front.getLast? with
  | some '~' => some (front.dropLast, .generations n)
  | some '^' => some (front.dropLast, .parent n)
  | _ => none

def bracedSuffix? (t : Text) : Option (Text × Suffix) :=
  match braced? ['^'] t with
  | some (front, '/' :: part) => some (front, .message part)
  | some (front, kind) => (ObjectKind.ofName? kind).map fun k => (front, .kind k)
  | none =>
    match braced? ['@'] t with
    | some (front, ds) => (Text.number? ds).map fun n => (front, .change n)
    | none => none

def suffix? (t : Text) : Option (Text × Suffix) := counted? t <|> bracedSuffix? t

def applySuffix (front : Text) (of : Revision) : Suffix → Revision
  | .generations n => ancestor n of
  | .parent n => parent n of
  | .kind k => asKind k of
  | .message part => matching part of
  | .change n => earlier n front

def readFrom : Nat → Text → Revision
  | 0, t => name t
  | fuel + 1, t =>
    match suffix? t with
    | some (front, s) => applySuffix front (readFrom fuel front) s
    | none => name t

def read (t : Text) : Revision := readFrom t.length t

end Revision

inductive Found
  | commit (history : History)
  | tree (snapshot : Snapshot)
  | blob (entry : Entry)

namespace Repository

def isBranchName (r : Repository) (t : Text) : Bool :=
  t == "HEAD".toList || t == ['@'] || t == r.branch || t == "heads/".toList ++ r.branch ||
    t == "refs/heads/".toList ++ r.branch

def tagged? (r : Repository) (t : Text) : Option History :=
  match "refs/tags/".toList.isPrefixOf? t <|> "tags/".toList.isPrefixOf? t with
  | some name => r.tags.find? name
  | none => r.tags.find? t

/-- The history that a name stands for. A tag comes before a branch of the same name. -/
def named? (r : Repository) (t : Text) : Option History :=
  (r.tagged? t <|> if r.isBranchName t then some r.history else none).filter (!·.isEmpty)

def commitsNamed (digits : Text) : History → List History
  | [] => []
  | c :: h =>
    let rest := commitsNamed digits h
    match History.id? (c :: h) with
    | some id => if digits.isPrefixOf id.digits then (c :: h) :: rest else rest
    | none => rest

def leastDigits : Nat := 4

def abbreviated? (r : Repository) (t : Text) : Option History :=
  if t.length < leastDigits || t.any fun c => (ObjectId.hexValue? c).isNone then none
  else
    match commitsNamed (t.map Char.toLower) r.history with
    | [h] => some h
    | _ => none

/-- The commit that a short name ends with, behind a name, a number and the letter g. -/
def described? (r : Repository) (t : Text) : Option History := do
  let (front, digits) ← Text.cutLast? "-g".toList t
  if front.isEmpty then none else r.abbreviated? digits

def commit? : Found → Option History
  | .commit h => some h
  | _ => none

def asKind? : ObjectKind → Found → Option Found
  | .any, f => some f
  | .commit, .commit h => some (.commit h)
  | .tree, .commit h => some (.tree h.snapshot)
  | .tree, .tree s => some (.tree s)
  | .blob, .blob e => some (.blob e)
  | _, _ => none

def withMessage? (part : Text) : History → Option History
  | [] => none
  | c :: h => if Text.occursIn part c.message then some (c :: h) else withMessage? part h

def parent? (n : Nat) (h : History) : Option History :=
  match n with
  | 0 => some h
  | 1 => some (h.drop 1)
  | _ => none

def nonempty? (h : History) : Option Found := if h.isEmpty then none else some (.commit h)

def resolve? (r : Repository) : Revision → Option Found
  | .name t => ((r.named? t <|> r.described? t) <|> r.abbreviated? t).map .commit
  | .parent n of => (((resolve? r of).bind commit?).bind (parent? n)).bind nonempty?
  | .ancestor n of => ((resolve? r of).bind commit?).bind fun h => nonempty? (h.drop n)
  | .asKind kind of => (resolve? r of).bind (asKind? kind)
  | .matching part of => (((resolve? r of).bind commit?).bind (withMessage? part)).map .commit
  | .earlier n branch =>
    if r.isBranchName branch || branch.isEmpty then nonempty? (r.history.drop n) else none

end Repository
end DiffBudget
