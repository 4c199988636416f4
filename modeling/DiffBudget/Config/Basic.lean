import DiffBudget.Assembly.Options
import DiffBudget.Text.Table
import DiffBudget.Tokens.Limit
import DiffBudget.FileFilter
import DiffBudget.Text.Blank

/-!
# Configuration

What a user sets for a repository: the model with its limits, the shape of the shown hunks, the
reserves, and the files to leave out. A configuration is valid when its model has a name, its
limits are positive, its suffixes are not empty and its patterns can be read.
-/
namespace DiffBudget

structure Config where
  model : Text := "gpt-4".toList
  /-- A cap on the limit of the model. -/
  maxModelTokens : Option Nat := none
  modelTokenLimits : TextTable Nat := .empty
  contextLinesBefore : Nat := 3
  contextLinesAfter : Nat := 3
  lineNumbers : Bool := false
  noExtendSuffixes : List Text := []
  softReserveTokens : Nat := 1000
  hardReserveTokens : Nat := 600
  ignoreGlobs : List Text := []
  ignoreRegex : List Text := []
  deriving DecidableEq, Repr

namespace Config

def checkModel (c : Config) : Except Failure Unit :=
  if (Text.trim c.model).isEmpty then .error .emptyModel else .ok ()

def checkLimits (c : Config) : Except Failure Unit :=
  match c.modelTokenLimits.entries.find? (·.2 == 0) with
  | some e => .error (.zeroLimit e.1)
  | none => .ok ()

def checkSuffixes (c : Config) : Except Failure Unit :=
  if c.noExtendSuffixes.any (·.isEmpty) then .error .emptySuffix else .ok ()

def checkPatterns (c : Config) (limits : PatternLimits) : Except Failure Unit := do
  c.ignoreGlobs.forM fun g => (compileGlob g).map fun _ => ()
  c.ignoreRegex.forM fun r => (compileRegex limits [] r []).map fun _ => ()

def validate (c : Config) (limits : PatternLimits := .estimated) : Except Failure Unit := do
  c.checkModel
  c.checkLimits
  c.checkSuffixes
  c.checkPatterns limits

def tokenLimit (c : Config) : Except Failure Nat :=
  ModelLimit.resolve c.model c.modelTokenLimits.entries c.maxModelTokens

def assemblyOptions (c : Config) : Except Failure AssemblyOptions := do
  let options : AssemblyOptions :=
    { limit := ← c.tokenLimit
      contextBefore := c.contextLinesBefore
      contextAfter := c.contextLinesAfter
      softReserve := c.softReserveTokens
      hardReserve := c.hardReserveTokens
      lineNumbers := c.lineNumbers
      noExtendSuffixes := c.noExtendSuffixes }
  options.validate
  return options

def fileFilter (c : Config) (limits : PatternLimits := .estimated) : Except Failure FileFilter :=
  FileFilter.ofPatterns c.ignoreGlobs c.ignoreRegex limits

theorem checkSuffixes_eq_ok_iff (c : Config) :
    c.checkSuffixes = .ok () ↔ ∀ s ∈ c.noExtendSuffixes, s ≠ [] := by
  unfold checkSuffixes
  split
  case isTrue h =>
    obtain ⟨s, hs, he⟩ := List.any_eq_true.1 h
    simp only [reduceCtorEq, false_iff]
    exact fun hall => hall s hs (by simpa using he)
  case isFalse h =>
    simp only [true_iff]
    intro s hs he
    exact h (List.any_eq_true.2 ⟨s, hs, by simp [he]⟩)

end Config
end DiffBudget
