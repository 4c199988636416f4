import DiffBudget.Repository.Date
import DiffBudget.Repository.DiffStyle

/-!
# Reports about commits

A commit is reported with a heading, or in a format of its reader's own, and with what it changed
in some style. A log reports many commits, and its reports stand in one of two ways: every one ends
its own line, or a line feed stands between them.
-/
namespace DiffBudget

open Utf8 (Bytes)

inductive CommitFormat
  | heading
  | oneLine (short : Bool)
  /-- A text with placeholders; a line feed ends it, or only separates it from what follows. -/
  | pattern (ended : Bool) (t : Text)

/-- A history and all that are left when its newest commits are taken away one by one. -/
def History.suffixes : History → List History
  | [] => []
  | c :: h => (c :: h) :: suffixes h

/-- A part of a history: some of its commits, each with all that came before it. -/
abbrev Excerpt := List History

namespace CommitFormat

def ofName? (t : Text) : Option CommitFormat :=
  match "format:".toList.isPrefixOf? t, "tformat:".toList.isPrefixOf? t with
  | some p, _ => some (pattern false p)
  | none, some p => some (pattern true p)
  | none, none =>
    if t = "medium".toList then some heading
    else if t = "oneline".toList then some (oneLine false)
    else if t.isEmpty || t.contains '%' then some (pattern true t)
    else none

def ofOption? (o : Text) : Option CommitFormat :=
  match "--format=".toList.isPrefixOf? o <|> "--pretty=".toList.isPrefixOf? o with
  | some t => ofName? t
  | none => if o = "--oneline".toList then some (oneLine true) else none

def letter? (short : ObjectId → Text) (c : Commit) (h : History) : Char → Option Text
  | 's' => some c.message
  | 'B' => some (c.message ++ ['\n'])
  | 'b' => some []
  | 'H' => some ((h.id?.map ObjectId.digits).getD [])
  | 'h' => some ((h.id?.map short).getD [])
  | 'T' => some c.snapshot.objectId.digits
  | 't' => some (short c.snapshot.objectId)
  | 'P' => some ((History.id? (h.drop 1)).map ObjectId.digits |>.getD [])
  | 'p' => some ((History.id? (h.drop 1)).map short |>.getD [])
  | 'n' => some ['\n']
  | '%' => some ['%']
  | _ => none

def person? (s : Signature) : Char → Option Text
  | 'n' => some s.name
  | 'e' => some s.email
  | 't' => some (Text.ofNat s.seconds)
  | 'd' => some (Date.shown s.seconds s.zone)
  | _ => none

def fill (short : ObjectId → Text) (c : Commit) (h : History) : Text → Text
  | '%' :: 'a' :: d :: t =>
    ((person? c.signature d).getD ['%', 'a', d]) ++ fill short c h t
  | '%' :: 'c' :: d :: t =>
    ((person? c.signature d).getD ['%', 'c', d]) ++ fill short c h t
  | '%' :: d :: t => ((letter? short c h d).getD ['%', d]) ++ fill short c h t
  | d :: t => d :: fill short c h t
  | [] => []

def headingText (c : Commit) (h : History) : Text :=
  Text.unlines
    ["commit ".toList ++ (h.id?.map ObjectId.digits).getD [],
      "Author: ".toList ++ c.signature.name ++ " <".toList ++ c.signature.email ++ ['>'],
      "Date:   ".toList ++ Date.shown c.signature.seconds c.signature.zone, [],
      "    ".toList ++ c.message]

def text (short : ObjectId → Text) (f : CommitFormat) (h : History) : Text :=
  match h with
  | [] => []
  | c :: _ =>
    match f with
    | heading => headingText c h
    | oneLine shortened =>
      fill short c h (if shortened then "%h %s%n".toList else "%H %s%n".toList)
    | pattern true [] => []
    | pattern ended t => fill short c h t ++ (if ended then ['\n'] else [])

def gap : CommitFormat → Text
  | oneLine _ | pattern _ [] => []
  | _ => ['\n']

def separator : CommitFormat → Bytes
  | heading | pattern false _ => [10]
  | _ => []

end CommitFormat

structure ReportStyle where
  format : CommitFormat := .heading
  diff : DiffStyle
  count : Option Nat := none
  backwards : Bool := false

namespace ReportStyle

def read (s : ReportStyle) (rev : Option Text) : List Text → Option (ReportStyle × Option Text)
  | [] => some (s, rev)
  | a :: as =>
    if a = "--reverse".toList then { s with backwards := true }.read rev as
    else if let some f := CommitFormat.ofOption? a then { s with format := f }.read rev as
    else if let some n := count? a then { s with count := some n }.read rev as
    else if let some d := s.diff.withOption? a then { s with diff := d }.read rev as
    else if a.head? = some '-' || rev.isSome then none
    else s.read (some a) as
where
  count? (a : Text) : Option Nat :=
    ("--max-count=".toList.isPrefixOf? a <|> ("-n".toList.isPrefixOf? a <|>
      "-".toList.isPrefixOf? a)).bind Text.number?

end ReportStyle

namespace Checkout

def commitReport (c : Checkout) (s : ReportStyle) (h : History) : Bytes :=
  let ds := Delta.between (History.snapshot (h.drop 1)) h.snapshot
  let changes := s.diff.print c.shorten ds
  let text := s.format.text c.shorten h
  Utf8.encode (if changes.isEmpty then text else text ++ s.format.gap) ++ changes

def reportAll (c : Checkout) (s : ReportStyle) (hs : Excerpt) : Reply :=
  let hs := match s.count with
    | some n => hs.take n
    | none => hs
  { output := s.format.separator.intercalate
      ((if s.backwards then hs.reverse else hs).map (c.commitReport s)) }

def folderNames (s : Snapshot) : List Text :=
  (s.names.map fun p =>
    match Path.parts p with
    | first :: _ :: _ => first ++ ['/']
    | _ => p).eraseDups

def showObject (c : Checkout) (s : ReportStyle) (arg : Option Text) : Except Complaint Reply := do
  match ← c.argumentOrNewest arg with
  | .blob e => return { output := e.content }
  | .tree s => return .ofLines (("tree ".toList ++ arg.getD []) :: [] :: folderNames s)
  | .commit h => return { output := c.commitReport s h }

/-- The commits that an argument asks for: a history, or the part of it that another lacks. -/
def excerpt (c : Checkout) (arg : Option Text) : Except Complaint Excerpt := do
  match arg.bind fun t => (readRange? t).map (t, ·) with
  | some (t, r) =>
    match c.history? r.old, c.history? r.new with
    | some old, some new =>
      let beyond (a b : History) := a.suffixes.take (a.length - b.length)
      return beyond new old ++ (if r.fromMeeting then beyond old new else [])
    | _, _ => .error (.unknownArgument t)
  | none =>
    match ← c.argumentOrNewest arg with
    | .commit h => return h.suffixes
    | _ => return []

def log (c : Checkout) (s : ReportStyle) (arg : Option Text) : Except Complaint Reply := do
  return c.reportAll s (← c.excerpt arg)

def listCommits (c : Checkout) (s : ReportStyle) (arg : Text) : Except Complaint Reply := do
  return c.reportAll { s with format := .pattern true "%H".toList } (← c.excerpt arg)

def countCommits (c : Checkout) (arg : Text) : Except Complaint Reply := do
  return .ofLines [Text.ofNat (← c.excerpt arg).length]

end Checkout
end DiffBudget
