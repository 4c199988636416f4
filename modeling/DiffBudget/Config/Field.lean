import DiffBudget.Config.Basic
import DiffBudget.Yaml.Printer

/-!
# Fields of a configuration

The names of the fields as they are written, in the order of writing, and the written
configuration. A cap that is not set is left out.
-/
namespace DiffBudget

inductive ConfigField
  | model
  | maxModelTokens
  | modelTokenLimits
  | contextLinesBefore
  | contextLinesAfter
  | lineNumbers
  | noExtendSuffixes
  | softReserveTokens
  | hardReserveTokens
  | ignoreGlobs
  | ignoreRegex
  deriving DecidableEq, Repr

namespace ConfigField

def all : List ConfigField :=
  [model, maxModelTokens, modelTokenLimits, contextLinesBefore, contextLinesAfter, lineNumbers,
    noExtendSuffixes, softReserveTokens, hardReserveTokens, ignoreGlobs, ignoreRegex]

def name : ConfigField → Text
  | model => "model".toList
  | maxModelTokens => "max_model_tokens".toList
  | modelTokenLimits => "model_token_limits".toList
  | contextLinesBefore => "context_lines_before".toList
  | contextLinesAfter => "context_lines_after".toList
  | lineNumbers => "line_numbers".toList
  | noExtendSuffixes => "no_extend_suffixes".toList
  | softReserveTokens => "soft_reserve_tokens".toList
  | hardReserveTokens => "hard_reserve_tokens".toList
  | ignoreGlobs => "ignore_globs".toList
  | ignoreRegex => "ignore_regex".toList

def ofName? (t : Text) : Option ConfigField := all.find? (·.name == t)

theorem ofName?_name (f : ConfigField) : ofName? f.name = some f := by cases f <;> decide

end ConfigField

namespace Config

def value? (c : Config) : ConfigField → Option Yaml.Value
  | .model => some (.text c.model)
  | .maxModelTokens => c.maxModelTokens.map .natural
  | .modelTokenLimits => some (.table c.modelTokenLimits.entries)
  | .contextLinesBefore => some (.natural c.contextLinesBefore)
  | .contextLinesAfter => some (.natural c.contextLinesAfter)
  | .lineNumbers => some (.flag c.lineNumbers)
  | .noExtendSuffixes => some (.list c.noExtendSuffixes)
  | .softReserveTokens => some (.natural c.softReserveTokens)
  | .hardReserveTokens => some (.natural c.hardReserveTokens)
  | .ignoreGlobs => some (.list c.ignoreGlobs)
  | .ignoreRegex => some (.list c.ignoreRegex)

def toYaml (c : Config) : Text :=
  Yaml.writeDocument (ConfigField.all.filterMap fun f => (c.value? f).map fun v => (f.name, v))

end Config
end DiffBudget
