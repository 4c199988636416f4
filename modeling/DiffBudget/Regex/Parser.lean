import DiffBudget.Regex.Basic

/-!
# Reading regular expressions

The reader goes through a pattern from left to right. It keeps the flags in force, the items of
the current branch, the branches before it, and the groups around them; the flags of a group end
with it. With the flag `x`, white space and remarks between the items do not count. Every place
where a pattern can go wrong has a cause of its own.
-/
namespace DiffBudget.Regex

inductive Fault
  | groupUnclosed
  | groupUnopened
  | groupNameEmpty
  | groupNameInvalid
  | groupNameUnfinished
  | groupNameRepeated (name : Text)
  | flagUnrecognized
  | flagRepeated
  | flagNegationRepeated
  | flagNegationDangling
  | flagUnfinished
  | lookAround
  | repetitionMissing
  | repetitionUnclosed
  | repetitionEmpty
  | repetitionInvalid
  | decimalInvalid
  | classUnclosed
  | classRangeInvalid
  | classRangeNotLiteral
  | classEscapeInvalid
  | escapeUnfinished
  | escapeUnrecognized
  | backreference
  | hexEmpty
  | hexInvalid
  | wordBoundaryUnclosed
  | wordBoundaryUnrecognized
  | propertyInvalid
  | propertyUnknown
  | unicodeNotAllowed
  | invalidUtf8
  | nestedTooDeep
  | tooLarge
  deriving DecidableEq, Repr

def Fault.message : Fault → Text
  | groupUnclosed => "unclosed group".toList
  | groupUnopened => "unopened group".toList
  | groupNameEmpty => "empty capture group name".toList
  | groupNameInvalid => "invalid capture group character".toList
  | groupNameUnfinished => "unclosed capture group name".toList
  | groupNameRepeated name => "duplicate capture group name: ".toList ++ name
  | flagUnrecognized => "unrecognized flag".toList
  | flagRepeated => "duplicate flag".toList
  | flagNegationRepeated => "flag negation operator repeated".toList
  | flagNegationDangling => "dangling flag negation operator".toList
  | flagUnfinished => "expected flag but got end of regex".toList
  | lookAround =>
    "look-around, including look-ahead and look-behind, is not supported".toList
  | repetitionMissing => "repetition operator missing expression".toList
  | repetitionUnclosed => "unclosed counted repetition".toList
  | repetitionEmpty => "repetition quantifier expects a valid decimal".toList
  | repetitionInvalid =>
    "invalid repetition count range, the start must be <= the end".toList
  | decimalInvalid => "invalid decimal".toList
  | classUnclosed => "unclosed character class".toList
  | classRangeInvalid =>
    "invalid character class range, the start must be <= the end".toList
  | classRangeNotLiteral => "invalid range boundary, must be a literal".toList
  | classEscapeInvalid => "invalid escape sequence found in character class".toList
  | escapeUnfinished =>
    "incomplete escape sequence, reached end of pattern prematurely".toList
  | escapeUnrecognized => "unrecognized escape sequence".toList
  | backreference => "backreferences are not supported".toList
  | hexEmpty => "hexadecimal literal empty".toList
  | hexInvalid => "hexadecimal literal is not a Unicode scalar value".toList
  | wordBoundaryUnclosed => "special word boundary assertion is unclosed".toList
  | wordBoundaryUnrecognized => "unrecognized special word boundary assertion".toList
  | propertyInvalid => "invalid Unicode character class".toList
  | propertyUnknown => "Unicode property not found".toList
  | unicodeNotAllowed => "Unicode not allowed here".toList
  | invalidUtf8 => "pattern can match invalid UTF-8".toList
  | nestedTooDeep => "exceeded the maximum number of nested parentheses/brackets (250)".toList
  | tooLarge => "Compiled regex exceeds size limit of 10485760 bytes.".toList

structure Flags where
  ignoreCase : Bool := false
  multiLine : Bool := false
  dotAll : Bool := false
  swapGreed : Bool := false
  unicode : Bool := true
  crlf : Bool := false
  spaced : Bool := false

namespace Flags

def set (f : Flags) (flag : Char) (value : Bool) : Flags :=
  match flag with
  | 'i' => { f with ignoreCase := value }
  | 'm' => { f with multiLine := value }
  | 's' => { f with dotAll := value }
  | 'U' => { f with swapGreed := value }
  | 'u' => { f with unicode := value }
  | 'R' => { f with crlf := value }
  | _ => { f with spaced := value }

end Flags

/-! ## Small parts -/

def skipRemarks : Bool → Text → Text
  | _, [] => []
  | true, c :: t => skipRemarks (c != '\n') t
  | false, c :: t =>
    if isBlank c then skipRemarks false t
    else if c = '#' then skipRemarks true t
    else c :: t

def skip (f : Flags) (t : Text) : Text := if f.spaced then skipRemarks false t else t

def isMeta (c : Char) : Bool := "\\.+*?()|[]\x7b\x7d^$#&-~".toList.contains c

def isEscapable (c : Char) : Bool :=
  c.toNat < 128 && !c.isAlphanum && c != '<' && c != '>'

def isHex (c : Char) : Bool :=
  c.isDigit || ('a' ≤ c && c ≤ 'f') || ('A' ≤ c && c ≤ 'F')

def hexChar (ds : Text) : Except Fault Char :=
  let n := Text.valueIn 16 Unicode.hexDigit ds
  if n < 0xD800 ∨ 0xDFFF < n ∧ n < 0x110000 then .ok (Char.ofNat n) else .error .hexInvalid

def takeSpaced (f : Flags) : Nat → Text → Text × Text
  | n + 1, c :: t =>
    let (taken, rest) := takeSpaced f n (skip f t)
    (c :: taken, rest)
  | _, t => ([], t)

def upToBrace (f : Flags) : Nat → Text → Option (Text × Text)
  | fuel + 1, c :: t =>
    if c = '\x7d' then some ([], t)
    else (upToBrace f fuel (skip f t)).map fun p => (c :: p.1, p.2)
  | _, _ => none

inductive Primitive
  /-- A character; `byte` when it was written as a byte of two digits. -/
  | literal (c : Char) (byte : Bool)
  | charClass (c : CharClass)
  | look (a : Assertion)

def bracedHex (f : Flags) (t : Text) : Except Fault (Primitive × Text) :=
  match upToBrace f t.length (skip f t) with
  | none => .error .escapeUnfinished
  | some (ds, rest) =>
    if ds.any (!isHex ·) then .error .hexInvalid
    else if ds.isEmpty then .error .hexEmpty
    else (hexChar ds).map fun c => (.literal c false, rest)

def hexDigitCount (kind : Char) : Nat := if kind = 'x' then 2 else if kind = 'u' then 4 else 8

def plainHex (f : Flags) (kind : Char) (t : Text) : Except Fault (Primitive × Text) :=
  let (ds, rest) := takeSpaced f (hexDigitCount kind) t
  if ds.any (!isHex ·) then .error .hexInvalid
  else if ds.length < hexDigitCount kind then .error .escapeUnfinished
  else (hexChar ds).map fun c => (.literal c (kind = 'x'), rest)

def hexEscape (f : Flags) (kind : Char) (t : Text) : Except Fault (Primitive × Text) :=
  match skip f t with
  | [] => .error .escapeUnfinished
  | '\x7b' :: t => bracedHex f t
  | t => plainHex f kind t

def withCase (f : Flags) (c : CharClass) : CharClass :=
  if f.ignoreCase then (if f.unicode then .anyCase c else .anyAsciiCase c) else c

/-- The complement of a class of bytes would hold bytes that are no text. -/
def negateIf (f : Flags) (negated : Bool) (c : CharClass) : Except Fault CharClass :=
  if !negated then .ok c
  else if f.unicode then .ok (.complement c)
  else .error .invalidUtf8

def propertyQuery (name : Text) : Bool × Option Unicode.CharSet :=
  match Text.cutFirst? "!=".toList name with
  | some (p, v) => (true, Unicode.valued? p v)
  | none =>
    match Text.cutFirst? [':'] name with
    | some (p, v) => (false, Unicode.valued? p v)
    | none =>
      match Text.cutFirst? ['='] name with
      | some (p, v) => (false, Unicode.valued? p v)
      | none => (false, Unicode.named? name)

def propertyName (f : Flags) (t : Text) : Except Fault (Text × Text) :=
  match skip f t with
  | [] => .error .escapeUnfinished
  | '\x7b' :: t =>
    match upToBrace f t.length (skip f t) with
    | none => .error .escapeUnfinished
    | some p => .ok p
  | '\\' :: _ => .error .propertyInvalid
  | c :: t => .ok ([c], skip f t)

def propertyClass (f : Flags) (negated : Bool) (name : Text) : Except Fault CharClass :=
  if !f.unicode then .error .unicodeNotAllowed
  else
    match propertyQuery name with
    | (_, none) => .error .propertyUnknown
    | (unequal, some set) => negateIf f (negated != unequal) (withCase f (.named set))

def propertyEscape (f : Flags) (negated : Bool) (t : Text) :
    Except Fault (Primitive × Text) := do
  let (name, rest) ← propertyName f t
  return (.charClass (← propertyClass f negated name), rest)

def digitClass (f : Flags) : CharClass :=
  if f.unicode then .named ⟨Unicode.isDecimal, 70⟩ else .range '0' '9'

def blankClass (f : Flags) : CharClass :=
  if f.unicode then .named ⟨isBlank, 10⟩
  else .union [.range '\t' '\r', .single ' ']

def wordClass (f : Flags) : CharClass :=
  if f.unicode then .named ⟨Unicode.isWordChar, 800⟩
  else .union [.range '0' '9', .range 'A' 'Z', .range 'a' 'z', .single '_']

def letterClass? (f : Flags) (c : Char) : Option (Bool × CharClass) :=
  match c with
  | 'd' => some (false, digitClass f)
  | 'D' => some (true, digitClass f)
  | 's' => some (false, blankClass f)
  | 'S' => some (true, blankClass f)
  | 'w' => some (false, wordClass f)
  | 'W' => some (true, wordClass f)
  | _ => none

def boundaryNames (u : Bool) : List (Text × Assertion) :=
  [("start".toList, .wordStart u), ("end".toList, .wordEnd u),
   ("start-half".toList, .wordStartHalf u), ("end-half".toList, .wordEndHalf u)]

def isBoundaryLetter (c : Char) : Bool := c.isAlpha || c == '-'

/-- A word boundary, which may be named in braces. Braces that do not begin with a letter belong
to a repetition. -/
def wordBoundary (f : Flags) (t : Text) : Except Fault (Primitive × Text) :=
  let plain : Except Fault (Primitive × Text) := .ok (.look (.wordBoundary f.unicode), t)
  match t with
  | '\x7b' :: r =>
    match skip f r with
    | [] => .error .wordBoundaryUnclosed
    | c :: r =>
      if !isBoundaryLetter c then plain
      else
        match upToBrace f (r.length + 1) (c :: r) with
        | none => .error .wordBoundaryUnclosed
        | some (name, rest) =>
          if name.any (!isBoundaryLetter ·) then .error .wordBoundaryUnclosed
          else
            match (boundaryNames f.unicode).lookup name with
            | some a => .ok (.look a, rest)
            | none => .error .wordBoundaryUnrecognized
  | _ => plain

def controls : List (Char × Char) :=
  [('a', '\x07'), ('f', '\x0C'), ('t', '\t'), ('n', '\n'), ('r', '\r'), ('v', '\x0B')]

def escape (f : Flags) : Text → Except Fault (Primitive × Text)
  | [] => .error .escapeUnfinished
  | c :: t =>
    if c.isDigit then .error .backreference
    else if c = 'x' ∨ c = 'u' ∨ c = 'U' then hexEscape f c t
    else if c = 'p' ∨ c = 'P' then propertyEscape f (c = 'P') t
    else if let some (negated, k) := letterClass? f c then
      (negateIf f negated k).map fun k => (.charClass k, t)
    else if isMeta c || isEscapable c then .ok (.literal c false, t)
    else if let some d := controls.lookup c then .ok (.literal d false, t)
    else
      match c with
      | 'A' => .ok (.look .textStart, t)
      | 'z' => .ok (.look .textEnd, t)
      | 'b' => wordBoundary f t
      | 'B' => .ok (.look (.noWordBoundary f.unicode), t)
      | '<' => .ok (.look (.wordStart f.unicode), t)
      | '>' => .ok (.look (.wordEnd f.unicode), t)
      | _ => .error .escapeUnrecognized

/-! ## Bracketed classes -/

inductive SetOp
  | both
  | less
  | either

def SetOp.apply : SetOp → CharClass → CharClass → CharClass
  | both, a, b => .allOf a b
  | less, a, b => .without a b
  | either, a, b => .oneOf a b

def asciiClasses : List (Text × List (Char × Char)) :=
  [("alnum".toList, [('0', '9'), ('A', 'Z'), ('a', 'z')]),
   ("alpha".toList, [('A', 'Z'), ('a', 'z')]),
   ("ascii".toList, [('\x00', '\x7F')]),
   ("blank".toList, [('\t', '\t'), (' ', ' ')]),
   ("cntrl".toList, [('\x00', '\x1F'), ('\x7F', '\x7F')]),
   ("digit".toList, [('0', '9')]),
   ("graph".toList, [('!', '~')]),
   ("lower".toList, [('a', 'z')]),
   ("print".toList, [(' ', '~')]),
   ("punct".toList, [('!', '/'), (':', '@'), ('[', '\x60'), ('\x7b', '~')]),
   ("space".toList, [('\t', '\r'), (' ', ' ')]),
   ("upper".toList, [('A', 'Z')]),
   ("word".toList, [('0', '9'), ('A', 'Z'), ('a', 'z'), ('_', '_')]),
   ("xdigit".toList, [('0', '9'), ('A', 'F'), ('a', 'f')])]

def asciiRanges? (t : Text) : Option (List (Char × Char) × Text) :=
  match t.dropWhile (· != ':') with
  | ':' :: ']' :: rest =>
    (asciiClasses.lookup (t.takeWhile (· != ':'))).map fun ranges => (ranges, rest)
  | _ => none

def asciiClass? : Text → Option ((List (Char × Char) × Bool) × Text)
  | ':' :: '^' :: t => (asciiRanges? t).map fun (ranges, rest) => ((ranges, true), rest)
  | ':' :: t => (asciiRanges? t).map fun (ranges, rest) => ((ranges, false), rest)
  | _ => none

/-- The character of a literal, as far as the flags allow it; a class of bytes has no room for
characters beyond ASCII. -/
def literalIn (f : Flags) (c : Char) (byte : Bool) : Except Fault Char :=
  if f.unicode || c.toNat < 128 then .ok c
  else if byte then .error .invalidUtf8
  else .error .unicodeNotAllowed

def classItem (f : Flags) : Text → Except Fault (Primitive × Text)
  | [] => .error .classUnclosed
  | '\\' :: t => escape f t
  | c :: t => .ok (.literal c false, t)

def asClass (f : Flags) : Primitive → Except Fault CharClass
  | .literal c byte => (literalIn f c byte).map .single
  | .charClass c => .ok c
  | .look _ => .error .classEscapeInvalid

def asBound (f : Flags) : Primitive → Except Fault Char
  | .literal c byte => literalIn f c byte
  | _ => .error .classRangeNotLiteral

def rangeOf (f : Flags) (first last : Primitive) : Except Fault CharClass := do
  let low ← asBound f first
  let high ← asBound f last
  if high < low then throw .classRangeInvalid
  return .range low high

def rangeFrom (f : Flags) (first : Primitive) (rest : Text) : Except Fault (CharClass × Text) :=
  let alone := (asClass f first).map fun k => (k, rest)
  match rest with
  | [] => .error .classUnclosed
  | '-' :: after =>
    match skip f after with
    | [] => .error .classUnclosed
    | c :: t =>
      if c = ']' ∨ c = '-' then alone
      else do
        let (last, rest) ← classItem f (c :: t)
        return (← rangeOf f first last, rest)
  | _ => alone

def classRange (f : Flags) (t : Text) : Except Fault (CharClass × Text) := do
  let (first, rest) ← classItem f t
  rangeFrom f first (skip f rest)

def leadingHyphens (f : Flags) : Nat → Text → Nat × Text
  | fuel + 1, '-' :: t =>
    let (n, rest) := leadingHyphens f fuel (skip f t)
    (n + 1, rest)
  | _, t => (0, t)

/-- How deep a class is nested, as far as it has been read: the sides of the operators before the
last one, and the items behind it. Two items or more side by side are one level deeper. -/
structure ClassNesting where
  sides : Option Nat := none
  items : Nat := 0
  deepest : Nat := 0

namespace ClassNesting

def add (n : ClassNesting) (depth : Nat) : ClassNesting :=
  { n with items := n.items + 1, deepest := max n.deepest depth }

def depth (n : ClassNesting) : Nat :=
  let side := if 2 ≤ n.items then n.deepest + 1 else n.deepest
  match n.sides with
  | none => side
  | some d => max d side + 1

def operator (n : ClassNesting) : ClassNesting := { sides := some n.depth }

end ClassNesting

def classSign (f : Flags) (t : Text) : Bool × Text :=
  match skip f t with
  | '^' :: t => (true, skip f t)
  | t => (false, t)

def bracketFront (f : Flags) : Text → (CharClass × Nat) × Text
  | ']' :: t => ((.single ']', 1), skip f t)
  | t => ((.nothing, 0), t)

def classFront (f : Flags) (t : Text) : (CharClass × Nat) × Text :=
  let (hyphens, rest) := leadingHyphens f t.length t
  if 0 < hyphens then ((.single '-', hyphens), rest) else bracketFront f t

def classOpening (f : Flags) (t : Text) : (Bool × CharClass × Nat) × Text :=
  let (negated, t) := classSign f t
  let (front, t) := classFront f t
  ((negated, front), t)

/-- The two sides of an operator; where case does not count, it counts in neither. -/
def combine (f : Flags) (left : Option (SetOp × CharClass)) (c : CharClass) : CharClass :=
  match left with
  | none => c
  | some (op, l) => op.apply (withCase f l) (withCase f c)

def setOp? : Char → Option SetOp
  | '&' => some .both
  | '-' => some .less
  | '~' => some .either
  | _ => none

def setOperator? : Text → Option (SetOp × Text)
  | a :: b :: t => if a = b then (setOp? a).map fun op => (op, t) else none
  | _ => none

/-- The rest of a class up to its closing bracket. `left` is what stands before the operator that
was read last, `c` what stands behind it, and `negated` says how the class began. The number
that comes with the class tells how deep classes are nested in it. -/
def classBody (f : Flags) :
    Nat → Bool → Option (SetOp × CharClass) → CharClass → ClassNesting → Text →
      Except Fault ((CharClass × Nat) × Text)
  | 0, _, _, _, _, _ => .error .classUnclosed
  | fuel + 1, negated, left, c, nesting, t =>
    match skip f t with
    | [] => .error .classUnclosed
    | ']' :: rest =>
      (negateIf f negated (withCase f (combine f left c))).map fun whole =>
        ((whole, nesting.depth + 1), rest)
    | '[' :: rest =>
      match asciiClass? rest with
      | some ((ranges, no), rest) => do
        let k ← negateIf f no (withCase f (.union (ranges.map fun r => .range r.1 r.2)))
        classBody f fuel negated left (.anyOf c k) (nesting.add 0) rest
      | none => do
        let ((no, front, items), rest) := classOpening f rest
        let ((k, inner), rest) ← classBody f fuel no none front { items } rest
        classBody f fuel negated left (.anyOf c k) (nesting.add inner) rest
    | t =>
      match setOperator? t with
      | some (op, rest) =>
        classBody f fuel negated (some (op, combine f left c)) .nothing nesting.operator rest
      | none => do
        let (k, rest) ← classRange f t
        classBody f fuel negated left (.anyOf c k) (nesting.add 0) rest

def bracketed (f : Flags) (t : Text) : Except Fault ((CharClass × Nat) × Text) :=
  let ((negated, front, items), rest) := classOpening f t
  classBody f (t.length + 1) negated none front { items } rest

/-! ## Items, branches and groups -/

structure Node where
  regex : Regex
  depth : Nat

inductive Item
  | flags
  | node (n : Node)

def Item.toNode : Item → Node
  | flags => ⟨.empty, 0⟩
  | node n => n

def joinNodes (f : Regex → Regex → Regex) (none : Regex) : List Node → Node
  | [] => ⟨none, 0⟩
  | [n] => n
  | n :: ns => ⟨ns.foldl (fun r m => f r m.regex) n.regex,
      ((n :: ns).map (·.depth)).foldl max 0 + 1⟩

/-- A group that has been opened: what was read before it, and the flags to go back to. -/
structure Group where
  branches : List Node
  items : List Item
  flags : Flags

/-- The branches and items read last stand first. -/
structure Reading where
  branches : List Node := []
  items : List Item := []
  flags : Flags := {}
  outer : List Group := []
  names : List Text := []

namespace Reading

def branch (r : Reading) : Node := joinNodes .seq .empty (r.items.reverse.map Item.toNode)

def whole (r : Reading) : Node := joinNodes .alt .empty ((r.branch :: r.branches).reverse)

def push (r : Reading) (n : Node) : Reading := { r with items := .node n :: r.items }

def pushRegex (r : Reading) (e : Regex) : Reading := r.push ⟨e, 0⟩

def nextBranch (r : Reading) : Reading :=
  { r with branches := r.branch :: r.branches, items := [] }

def openGroup (r : Reading) (inside : Flags) : Reading :=
  { r with branches := [], items := [], flags := inside
           outer := ⟨r.branches, r.items, r.flags⟩ :: r.outer }

def openNamed (r : Reading) (name : Text) : Reading :=
  { r.openGroup r.flags with names := name :: r.names }

def closeGroup (r : Reading) : Except Fault Reading :=
  match r.outer with
  | [] => .error .groupUnopened
  | g :: outer =>
    let n := r.whole
    .ok { r with branches := g.branches, items := .node ⟨n.regex, n.depth + 1⟩ :: g.items
                 flags := g.flags, outer }

def repeated (r : Reading) (least : Nat) (most : Option Nat) : Except Fault Reading :=
  match r.items with
  | .node n :: items =>
    .ok { r with items := .node ⟨.times n.regex least most, n.depth + 1⟩ :: items }
  | _ => .error .repetitionMissing

end Reading

def dropLazy : Text → Text
  | '?' :: t => t
  | t => t

def decimalDigits (f : Flags) : Nat → Text → Text × Text
  | fuel + 1, c :: t =>
    if Text.isDigit c then
      let (ds, rest) := decimalDigits f fuel (skip f t)
      (c :: ds, rest)
    else ([], c :: t)
  | _, t => ([], t)

/-- A number of a repetition; `none` if there are no digits. -/
def decimal (f : Flags) (t : Text) : Except Fault (Option Nat × Text) :=
  let (ds, rest) := decimalDigits f t.length (t.dropWhile isBlank)
  let rest := rest.dropWhile isBlank
  if ds.isEmpty then .ok (none, rest)
  else
    let n := Text.valueIn 10 Text.decimalDigit ds
    if n < 4294967296 then .ok (some n, rest) else .error .decimalInvalid

def upperBound (f : Flags) (least : Nat) (t : Text) : Except Fault ((Nat × Option Nat) × Text) :=
  if t.head? = some '\x7d' then .ok ((least, none), t)
  else do
    match ← decimal f t with
    | (none, _) => throw .repetitionEmpty
    | (some most, t) => return ((least, some most), t)

def upperCount (f : Flags) (least : Option Nat) :
    Text → Except Fault ((Nat × Option Nat) × Text)
  | [] => .error .repetitionUnclosed
  | c :: t =>
    if c = ',' ∧ (skip f t).isEmpty then .error .repetitionUnclosed
    else
      match least with
      | none => .error .repetitionEmpty
      | some n => if c = ',' then upperBound f n (skip f t) else .ok ((n, some n), c :: t)

def closeCounts (f : Flags) (bounds : Nat × Option Nat) :
    Text → Except Fault ((Nat × Option Nat) × Text)
  | '\x7d' :: t =>
    if bounds.2.any (· < bounds.1) then .error .repetitionInvalid
    else .ok (bounds, dropLazy (skip f t))
  | _ => .error .repetitionUnclosed

def counts (f : Flags) (t : Text) : Except Fault ((Nat × Option Nat) × Text) := do
  let t := skip f t
  if t.isEmpty then throw .repetitionUnclosed
  let (least, t) ← decimal f t
  let (bounds, t) ← upperCount f least t
  closeCounts f bounds t

def isNameChar (first : Bool) (c : Char) : Bool :=
  c == '_' || Unicode.isAlphabetic c ||
    (!first && (c == '.' || c == '[' || c == ']' || Unicode.isNumber c))

def groupName (names : List Text) (t : Text) : Except Fault (Text × Text) :=
  let name := t.takeWhile (· != '>')
  if (name.take 1).any (!isNameChar true ·) || (name.drop 1).any (!isNameChar false ·) then
    .error .groupNameInvalid
  else
    match t.dropWhile (· != '>') with
    | [] => .error .groupNameUnfinished
    | _ :: rest =>
      if name.isEmpty then .error .groupNameEmpty
      else if names.contains name then .error (.groupNameRepeated name)
      else .ok (name, rest)

def isFlag (c : Char) : Bool := "imsUuRx".toList.contains c

/-- The flags up to a colon or a closing parenthesis, set or cleared in turn, with that mark and
the text behind it. `seen` holds the flags read so far and the minus sign. -/
def flagList (f : Flags) (seen : List Char) :
    Text → Except Fault ((Flags × List Char × Char) × Text)
  | [] => .error .flagUnfinished
  | c :: t =>
    if c = ':' ∨ c = ')' then
      if seen.head? = some '-' then .error .flagNegationDangling else .ok ((f, seen, c), t)
    else if c = '-' then
      if seen.contains '-' then .error .flagNegationRepeated else flagList f ('-' :: seen) t
    else if !isFlag c then .error .flagUnrecognized
    else if seen.contains c then .error .flagRepeated
    else flagList (f.set c (!seen.contains '-')) (c :: seen) t

def lookArounds : List Text := ["?=".toList, "?!".toList, "?<=".toList, "?<!".toList]

def flagGroup (r : Reading) (t : Text) : Except Fault (Reading × Text) := do
  let ((flags, seen, mark), rest) ← flagList r.flags [] t
  if mark = ')' then
    if seen.isEmpty then throw .repetitionMissing
    return ({ r with flags, items := .flags :: r.items }, rest)
  return (r.openGroup flags, rest)

def nameOpening? (t : Text) : Option Text :=
  ("?P<".toList.isPrefixOf? t).or ("?<".toList.isPrefixOf? t)

def openingOf (r : Reading) (t : Text) : Except Fault (Reading × Text) :=
  match nameOpening? t with
  | some t =>
    (groupName r.names t).map fun p => (r.openNamed p.1, p.2)
  | none =>
    match t with
    | ['?'] => .error .groupUnclosed
    | '?' :: t => flagGroup r t
    | t => .ok (r.openGroup r.flags, t)

def opening (r : Reading) (t : Text) : Except Fault (Reading × Text) :=
  let t := skip r.flags t
  if lookArounds.any fun l => (l.isPrefixOf? t).isSome then .error .lookAround else openingOf r t

def dotClass (f : Flags) : Except Fault CharClass :=
  if !f.unicode then .error .invalidUtf8
  else if f.dotAll then .ok (.complement .nothing)
  else if f.crlf then .ok (.complement (.union [.single '\r', .single '\n']))
  else .ok (.complement (.single '\n'))

def lineStart (f : Flags) : Assertion := if f.multiLine then .lineStart f.crlf else .textStart

def lineEnd (f : Flags) : Assertion := if f.multiLine then .lineEnd f.crlf else .textEnd

def literal (f : Flags) (c : Char) (byte : Bool) : Except Fault Regex :=
  if byte && !f.unicode && 128 ≤ c.toNat then .error .invalidUtf8
  else .ok (.char (withCase f (.single c)))

def primitive (f : Flags) : Primitive → Except Fault Regex
  | .literal c byte => literal f c byte
  | .charClass c => .ok (.char c)
  | .look a => .ok (.look a)

def readItem (r : Reading) (c : Char) (t : Text) : Except Fault (Reading × Text) :=
  let f := r.flags
  match c with
  | '(' => opening r t
  | ')' => r.closeGroup.map fun r => (r, t)
  | '|' => .ok (r.nextBranch, t)
  | '[' => (bracketed f t).map fun p => (r.push ⟨.char p.1.1, p.1.2⟩, p.2)
  | '?' => (r.repeated 0 (some 1)).map fun r => (r, dropLazy t)
  | '*' => (r.repeated 0 none).map fun r => (r, dropLazy t)
  | '+' => (r.repeated 1 none).map fun r => (r, dropLazy t)
  | '\x7b' => do
    let ((least, most), t) ← counts f t
    return (← r.repeated least most, t)
  | '\\' => do
    let (p, t) ← escape f t
    return (r.pushRegex (← primitive f p), t)
  | '.' => (dotClass f).map fun k => (r.pushRegex (.char k), t)
  | '^' => .ok (r.pushRegex (.look (lineStart f)), t)
  | '$' => .ok (r.pushRegex (.look (lineEnd f)), t)
  | c => (literal f c false).map fun e => (r.pushRegex e, t)

def readFrom : Nat → Reading → Text → Except Fault Reading
  | 0, r, _ => .ok r
  | fuel + 1, r, t =>
    match skip r.flags t with
    | [] => .ok r
    | c :: t =>
      match readItem r c t with
      | .error e => .error e
      | .ok (r, t) => readFrom fuel r t

def maxDepth : Nat := 250

def readWhole (pattern : Text) : Except Fault Node := do
  let r ← readFrom (pattern.length + 1) {} pattern
  if r.outer.isEmpty then return r.whole else throw .groupUnclosed

def Node.limited (n : Node) : Except Fault Regex :=
  if maxDepth < n.depth then .error .nestedTooDeep else .ok n.regex

def parse (pattern : Text) : Except Fault Regex := readWhole pattern >>= Node.limited

end DiffBudget.Regex
