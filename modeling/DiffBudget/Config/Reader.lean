import DiffBudget.Config.Field
import DiffBudget.Yaml.Node

/-!
# Reading a configuration

A configuration is a mapping from field names; what it does not name keeps its default, and what
it names besides is passed over. Every scalar can stand for a text. Numbers and truth values have
to be plain, or a literal block with the tag of their kind. Where nothing is written, a list or a
table is empty and there is no cap.
-/
namespace DiffBudget.Config

open Yaml (Node Document Style)

inductive Misfit
  | stream (fault : Yaml.Fault)
  | notText
  | notNumber
  | notFlag
  | notNull
  | notList
  | notMapping
  | repeatedField (field : ConfigField)
  deriving DecidableEq, Repr

def Misfit.message : Misfit → Text
  | stream fault => fault.message
  | notText => "invalid type: expected a string".toList
  | notNumber => "invalid type: expected a number".toList
  | notFlag => "invalid type: expected a boolean".toList
  | notNull => "invalid value: expected null".toList
  | notList => "invalid type: expected a sequence".toList
  | notMapping => "invalid type: expected a map".toList
  | repeatedField field => "duplicate field \x60".toList ++ field.name ++ ['\x60']

/-! ## Values -/

variable (d : Document)

def coreTag (name : String) : Text := "tag:yaml.org,2002:".toList ++ name.toList

def standsFor (kind : String) (style : Style) (tag : Option Text) : Bool :=
  style == .plain || (style == .literal && tag == some (coreTag kind))

def readText (n : Node) : Except Misfit Text :=
  match d.follow n with
  | .scalar t _ _ => .ok t
  | _ => .error .notText

def readNumber (n : Node) : Except Misfit Nat :=
  match d.follow n with
  | .scalar t style tag =>
    match Yaml.natural? t with
    | some k => if standsFor "int" style tag && k ≤ maxNumber then .ok k else .error .notNumber
    | none => .error .notNumber
  | _ => .error .notNumber

def readFlag (n : Node) : Except Misfit Bool :=
  match d.follow n with
  | .scalar t style tag =>
    match Yaml.bool? t with
    | some b => if standsFor "bool" style tag then .ok b else .error .notFlag
    | none => .error .notFlag
  | _ => .error .notFlag

/-- The number, or nothing for a plain scalar that is empty or a word for nothing; a scalar
tagged as nothing has to be such a word. -/
def readOptionalNumber (n : Node) : Except Misfit (Option Nat) :=
  match d.follow n with
  | .scalar t .plain (some tag) =>
    if tag = coreTag "null" then
      if Yaml.isNullWord t then .ok none else .error .notNull
    else (readNumber d n).map some
  | .scalar t .plain none =>
    if t.isEmpty || Yaml.isNullWord t then .ok none else (readNumber d n).map some
  | _ => (readNumber d n).map some

def isBlankNode : Node → Bool
  | .scalar t .plain _ => t.isEmpty
  | _ => false

def readTexts (n : Node) : Except Misfit (List Text) :=
  match d.follow n with
  | .sequence items => items.mapM (readText d)
  | n => if isBlankNode n then .ok [] else .error .notList

def readEntries (n : Node) : Except Misfit (List (Node × Node)) :=
  match d.follow n with
  | .mapping entries => .ok entries
  | n => if isBlankNode n then .ok [] else .error .notMapping

def readLimits (n : Node) : Except Misfit (TextTable Nat) := do
  let entries ← readEntries d n
  let limits ← entries.mapM fun e => return (← readText d e.1, ← readNumber d e.2)
  return .ofList limits

/-! ## Fields -/

def setField (c : Config) (n : Node) : ConfigField → Except Misfit Config
  | .model => return { c with model := ← readText d n }
  | .maxModelTokens => return { c with maxModelTokens := ← readOptionalNumber d n }
  | .modelTokenLimits => return { c with modelTokenLimits := ← readLimits d n }
  | .contextLinesBefore => return { c with contextLinesBefore := ← readNumber d n }
  | .contextLinesAfter => return { c with contextLinesAfter := ← readNumber d n }
  | .lineNumbers => return { c with lineNumbers := ← readFlag d n }
  | .noExtendSuffixes => return { c with noExtendSuffixes := ← readTexts d n }
  | .softReserveTokens => return { c with softReserveTokens := ← readNumber d n }
  | .hardReserveTokens => return { c with hardReserveTokens := ← readNumber d n }
  | .ignoreGlobs => return { c with ignoreGlobs := ← readTexts d n }
  | .ignoreRegex => return { c with ignoreRegex := ← readTexts d n }

/-- The configuration with the entries set, none of them among those seen. -/
def setFields (c : Config) (seen : List ConfigField) :
    List (Node × Node) → Except Misfit Config
  | [] => .ok c
  | (key, n) :: entries => do
    match ConfigField.ofName? (← readText d key) with
    | none => setFields c seen entries
    | some field =>
      if seen.contains field then throw (.repeatedField field)
      setFields (← setField d c n field) (field :: seen) entries

def ofStream (t : Text) : Except Misfit Config := do
  match ← (Document.parse t).mapError .stream with
  | none => return {}
  | some d => setFields d {} [] (← readEntries d d.root)

def ofYaml (t : Text) (limits : PatternLimits := .estimated) : Except Failure Config := do
  let c ← (ofStream t).mapError fun m => .configMalformed m.message
  c.validate limits
  return c

end DiffBudget.Config
