import DiffBudget.Yaml.Scalar

/-!
# Tokens

The tokens of a YAML stream. Besides those that are written, there are tokens for the structure
that indentation shows: a block collection starts and ends, and a key is marked in front of it.
-/
namespace DiffBudget.Yaml

inductive Token
  | versionDirective (major minor : Nat)
  | tagDirective (handle opening : Text)
  | documentStart
  | documentEnd
  | blockSequenceStart
  | blockMappingStart
  | blockEnd
  | flowSequenceStart
  | flowSequenceEnd
  | flowMappingStart
  | flowMappingEnd
  | blockEntry
  | flowEntry
  | key
  | value
  | alias (name : Text)
  | anchor (name : Text)
  | tag (handle suffix : Text)
  | scalar (text : Text) (style : Style)
  deriving DecidableEq, Repr

/-! ## Names, tags and directives -/

def readName (t : Text) : Text × Text := (t.takeWhile isNameChar, t.dropWhile isNameChar)

def readAnchor (t : Text) : Except Fault (Text × Text) :=
  let (name, rest) := readName t
  let closed := match rest with
    | [] => true
    | c :: _ => isWhite c || "?:,]\x7d%@\x60".toList.contains c
  if name.isEmpty || !closed then .error .malformedName else .ok (name, rest)

def isTagChar (verbatim : Bool) (c : Char) : Bool :=
  isNameChar c || ";/?:@&=+$.%!~*'()".toList.contains c ||
    (verbatim && (c == ',' || c == '[' || c == ']'))

/-- Where a reader of an escaped character of a tag stands: `more` bytes of a character are to
come, and of the byte in front a percent sign or one digit may have been read. -/
inductive TagState
  | between (more : Nat)
  | percent (more : Nat)
  | digit (more value : Nat)

def sequenceLength? (b : Nat) : Option Nat :=
  if b < 0x80 then some 1
  else if 0xC0 ≤ b && b < 0xE0 then some 2
  else if 0xE0 ≤ b && b < 0xF0 then some 3
  else if 0xF0 ≤ b && b < 0xF8 then some 4
  else none

/-- The characters of a tag with escapes resolved; escaped bytes have to form characters by
their first bits. A byte beyond ASCII stands as the character of its number. -/
def unescapeTag : TagState → Text → Except Fault Text
  | .between 0, [] => .ok []
  | _, [] => .error .malformedTag
  | .between more, c :: t =>
    if c = '%' then unescapeTag (.percent more) t
    else if more == 0 then (unescapeTag (.between 0) t).map (c :: ·)
    else .error .malformedTag
  | .percent more, c :: t =>
    match hexDigit? c with
    | some d => unescapeTag (.digit more d) t
    | none => .error .malformedTag
  | .digit more value, c :: t =>
    match hexDigit? c with
    | none => .error .malformedTag
    | some d =>
      let byte := value * 16 + d
      match more with
      | 0 =>
        match sequenceLength? byte with
        | some n => (unescapeTag (.between (n - 1)) t).map (Char.ofNat byte :: ·)
        | none => .error .malformedTag
      | more + 1 =>
        if 0x80 ≤ byte && byte < 0xC0 then
          (unescapeTag (.between more) t).map (Char.ofNat byte :: ·)
        else .error .malformedTag

def readTagChars (verbatim : Bool) (t : Text) : Except Fault (Text × Text) :=
  (unescapeTag (.between 0) (t.takeWhile (isTagChar verbatim))).map
    fun suffix => (suffix, t.dropWhile (isTagChar verbatim))

/-- A handle: `!`, or a name between two of them. Without the second one there is only a name
behind `!`, and it is not closed. -/
structure TagHandle where
  text : Text
  closed : Bool
  rest : Text

def readHandle (t : Text) : TagHandle :=
  let (name, rest) := readName t
  match rest with
  | '!' :: rest => ⟨'!' :: name ++ ['!'], true, rest⟩
  | _ => ⟨'!' :: name, false, rest⟩

/-- The tag behind `!`: its handle, its suffix, and what follows. The handle of a tag in angle
brackets is empty, and so is that of the tag `!`. -/
def readTag (inFlow : Bool) (t : Text) : Except Fault (Token × Text) := do
  let (handle, suffix, rest) ← match t with
    | '<' :: t => do
      let (suffix, rest) ← readTagChars true t
      match rest with
      | '>' :: rest => if suffix.isEmpty then throw .malformedTag else pure ([], suffix, rest)
      | _ => throw .malformedTag
    | t => do
      let h := readHandle t
      let (suffix, rest) ← readTagChars false h.rest
      if h.closed then
        if suffix.isEmpty then throw .malformedTag else pure (h.text, suffix, rest)
      else
        let suffix := h.text.drop 1 ++ suffix
        if suffix.isEmpty then pure ([], ['!'], rest) else pure (['!'], suffix, rest)
  let followed := match rest with
    | [] => true
    | c :: _ => isWhite c || (inFlow && c == ',')
  if followed then return (.tag handle suffix, rest) else throw .malformedTag

def versionNumber? (t : Text) : Option (Nat × Text) :=
  let digits := t.takeWhile Text.isDigit
  if digits.isEmpty || 9 < digits.length then none
  else some (Text.valueIn 10 Text.decimalDigit digits, t.dropWhile Text.isDigit)

def readVersion (t : Text) : Except Fault (Token × Text) :=
  match versionNumber? (t.dropWhile isGap) with
  | some (major, '.' :: t) =>
    match versionNumber? t with
    | some (minor, t) => .ok (.versionDirective major minor, t)
    | none => .error .malformedDirective
  | _ => .error .malformedDirective

def readTagDirective (t : Text) : Except Fault (Token × Text) := do
  match t.dropWhile isGap with
  | '!' :: t =>
    let h := readHandle t
    if !h.closed && h.text != ['!'] then throw .malformedDirective
    match h.rest with
    | c :: _ => if !isGap c then throw .malformedDirective
    | [] => throw .malformedDirective
    let (opening, rest) ← readTagChars true (h.rest.dropWhile isGap)
    if opening.isEmpty || !atWordEnd rest then throw .malformedDirective
    return (.tagDirective h.text opening, rest)
  | _ => throw .malformedDirective

def readDirective (t : Text) : Except Fault (Token × Text) := do
  let (name, t) := readName t
  if name.isEmpty || !atWordEnd t then throw .malformedDirective
  let (token, t) ←
    if name = "YAML".toList then readVersion t
    else if name = "TAG".toList then readTagDirective t
    else throw .malformedDirective
  let t := skipLineRest t
  if atLineEnd t then return (token, afterBreak t) else throw .malformedDirective

end DiffBudget.Yaml
