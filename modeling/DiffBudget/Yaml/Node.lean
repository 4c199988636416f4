import DiffBudget.Yaml.Scan

/-!
# Nodes

The tree of a YAML document. An alias names a node by the number of its anchor; every use of an
anchor takes the count of names known before it as its number, so that a name in use again gets a
new one. An alias has to follow its anchor, and may stand inside the node it names.
-/
namespace DiffBudget.Yaml

inductive Node
  | scalar (text : Text) (style : Style) (tag : Option Text)
  | sequence (items : List Node)
  | mapping (entries : List (Node × Node))
  | alias (anchor : Nat)
  deriving Repr

namespace Node

def absent : Node := scalar [] .plain none

end Node

structure Document where
  root : Node
  anchored : List (Nat × Option Node)

namespace Document

def follow (d : Document) : Node → Node
  | .alias n => ((d.anchored.lookup n).join).getD .absent
  | node => node

end Document

/-! ## Reading tokens -/

structure Composer where
  tokens : List Token
  handles : List (Text × Text) := []
  names : List (Text × Nat) := []
  /-- The nodes with anchors, the latest first; nothing for those still open. -/
  anchored : List (Nat × Option Node) := []

abbrev Composing := StateT Composer (Except Fault)

namespace Composing

def peek : Composing (Option Token) := return (← get).tokens.head?

def skip : Composing Unit := modify fun s => { s with tokens := s.tokens.drop 1 }

def accept (t : Token) : Composing Bool := do
  if (← peek) == some t then
    skip
    return true
  else return false

def isAt (ts : List Token) : Composing Bool := do
  match ← peek with
  | some t => return ts.contains t
  | none => return false

def openAnchor (name : Text) : Composing Unit :=
  modify fun s =>
    let n := s.names.length
    { s with
      names := (name, n) :: s.names.filter (·.1 != name)
      anchored := (n, none) :: s.anchored }

def fillFirst (node : Node) : List (Nat × Option Node) → List (Nat × Option Node)
  | [] => []
  | (n, none) :: rest => (n, some node) :: rest
  | (n, some a) :: rest => (n, some a) :: fillFirst node rest

def closeAnchor (node : Node) : Composing Unit :=
  modify fun s => { s with anchored := fillFirst node s.anchored }

def aliasNode (name : Text) : Composing Node := do
  match (← get).names.lookup name with
  | some n => return .alias n
  | none => throw .unknownAnchor

def fullTag (handle suffix : Text) : Composing Text := do
  if handle.isEmpty then return suffix
  match (← get).handles.lookup handle with
  | some opening => return opening ++ suffix
  | none => throw .unknownTagHandle

def properties : Composing (Option Text × Option Text) := do
  match ← peek with
  | some (.anchor name) =>
    skip
    match ← peek with
    | some (.tag handle suffix) =>
      skip
      return (some name, some (← fullTag handle suffix))
    | _ => return (some name, none)
  | some (.tag handle suffix) =>
    skip
    let name ← match ← peek with
      | some (.anchor name) => do
        skip
        pure (some name)
      | _ => pure none
    return (name, some (← fullTag handle suffix))
  | _ => return (none, none)

def scalarTag (tag : Option Text) : Option Text := tag.filter (· != ['!'])

/-- Where a node stands: in a block or between brackets, and whether the entries of a sequence
may start without indentation. -/
inductive Setting
  | block
  | unindented
  | flow
  deriving DecidableEq, Repr

def blockPairEnds : List Token := [.key, .value, .blockEnd]

mutual

def node (setting : Setting) : Nat → Composing Node
  | 0 => throw .tooDeep
  | n + 1 => do
    match ← peek with
    | some (.alias name) =>
      skip
      aliasNode name
    | _ => do
      let (name, tag) ← properties
      if let some name := name then openAnchor name
      let node ← content setting (name.isSome || tag.isSome) tag n
      if name.isSome then closeAnchor node
      return node

/-- The node behind its properties; after properties nothing has to follow. -/
def content (setting : Setting) (optional : Bool) (tag : Option Text) : Nat → Composing Node
  | 0 => throw .tooDeep
  | n + 1 => do
    match ← peek, setting with
    | some .blockEntry, .unindented => return .sequence (← unindentedItems n)
    | some (.scalar text style), _ =>
      skip
      return .scalar text style (scalarTag tag)
    | some .flowSequenceStart, _ =>
      skip
      return .sequence (← flowItems true n)
    | some .flowMappingStart, _ =>
      skip
      return .mapping (← flowPairs true n)
    | some .blockSequenceStart, .block | some .blockSequenceStart, .unindented =>
      skip
      return .sequence (← blockItems n)
    | some .blockMappingStart, .block | some .blockMappingStart, .unindented =>
      skip
      return .mapping (← blockPairs n)
    | _, _ =>
      if optional then return .scalar [] .plain tag else throw .unexpectedToken

def nodeUnless (ends : List Token) (setting : Setting) : Nat → Composing Node
  | 0 => throw .tooDeep
  | n + 1 => do
    if ← isAt ends then return .absent else node setting n

def blockItems : Nat → Composing (List Node)
  | 0 => throw .tooDeep
  | n + 1 => do
    if ← accept .blockEnd then return []
    if !(← accept .blockEntry) then throw .unexpectedToken
    let item ← nodeUnless [.blockEntry, .blockEnd] .block n
    return item :: (← blockItems n)

def unindentedItems : Nat → Composing (List Node)
  | 0 => throw .tooDeep
  | n + 1 => do
    if !(← accept .blockEntry) then return []
    let item ← nodeUnless (.blockEntry :: blockPairEnds) .block n
    return item :: (← unindentedItems n)

def blockPairs : Nat → Composing (List (Node × Node))
  | 0 => throw .tooDeep
  | n + 1 => do
    if ← accept .blockEnd then return []
    if !(← accept .key) then throw .unexpectedToken
    let key ← nodeUnless blockPairEnds .unindented n
    let value ←
      if ← accept .value then nodeUnless blockPairEnds .unindented n else pure .absent
    return (key, value) :: (← blockPairs n)

def flowItems (first : Bool) : Nat → Composing (List Node)
  | 0 => throw .tooDeep
  | n + 1 => do
    if ← accept .flowSequenceEnd then return []
    if !first && !(← accept .flowEntry) then throw .unexpectedToken
    if ← accept .flowSequenceEnd then return []
    let item ←
      if ← accept .key then flowPair n else node .flow n
    return item :: (← flowItems false n)

/-- A mapping of one key inside the brackets of a sequence. Where the key is missing, the token
that stands for it is passed over. -/
def flowPair : Nat → Composing Node
  | 0 => throw .tooDeep
  | n + 1 => do
    let key ←
      if ← isAt [.value, .flowEntry, .flowSequenceEnd] then do
        skip
        pure .absent
      else node .flow n
    let value ←
      if ← accept .value then nodeUnless [.flowEntry, .flowSequenceEnd] .flow n
      else pure .absent
    return .mapping [(key, value)]

def flowPairs (first : Bool) : Nat → Composing (List (Node × Node))
  | 0 => throw .tooDeep
  | n + 1 => do
    if ← accept .flowMappingEnd then return []
    if !first && !(← accept .flowEntry) then throw .unexpectedToken
    if ← accept .flowMappingEnd then return []
    let ends : List Token := [.flowEntry, .flowMappingEnd]
    let pair ←
      if ← accept .key then do
        let key ← nodeUnless (.value :: ends) .flow n
        let value ←
          if ← accept .value then nodeUnless ends .flow n else pure .absent
        pure (key, value)
      else do
        let key ← node .flow n
        pure (key, .absent)
    return pair :: (← flowPairs false n)

end

/-! ## Documents -/

def defaultHandles : List (Text × Text) :=
  [("!".toList, "!".toList), ("!!".toList, "tag:yaml.org,2002:".toList)]

/-- The directives of a document: one version at most, and no handle twice. -/
def directives (versionSeen : Bool) : List Token → List (Text × Text) →
    Except Fault (List (Text × Text) × List Token)
  | .versionDirective major minor :: ts, handles =>
    if versionSeen then .error .repeatedDirective
    else if major == 1 && (minor == 1 || minor == 2) then directives true ts handles
    else .error .unsupportedVersion
  | .tagDirective handle opening :: ts, handles =>
    if handles.any (·.1 == handle) then .error .repeatedDirective
    else directives versionSeen ts (handles ++ [(handle, opening)])
  | ts, handles => .ok (handles ++ defaultHandles, ts)

/-- The start of a document: its directives and its mark, if there are any; a directive asks for
the mark. Whether the mark stands here. -/
def header : Composing Bool := do
  let s ← get
  let (handles, tokens) ← directives false s.tokens []
  set { s with handles, tokens }
  let marked ← accept .documentStart
  if !marked && tokens.length != s.tokens.length then throw .unexpectedToken
  return marked

def isContentStart : Option Token → Bool
  | none | some (.versionDirective ..) | some (.tagDirective ..) | some .documentStart
  | some .documentEnd => false
  | _ => true

def document : Composing Document := do
  let marked ← header
  let root ←
    if marked && !isContentStart (← peek) then pure .absent
    else do node .block (4 * (← get).tokens.length + 8)
  modify fun s => { s with tokens := s.tokens.dropWhile (· == .documentEnd) }
  if (← peek).isSome then throw .severalDocuments
  return ⟨root, (← get).anchored⟩

end Composing

def Document.parse (t : Text) : Except Fault (Option Document) := do
  match ← tokens t with
  | [] => return none
  | ts => return some (← (Composing.document.run { tokens := ts })).1

end DiffBudget.Yaml
