import DiffBudget.Text.Number

/-!
# Commands and their settings

Every command has settings of its own, each given by a long name. A setting is a switch, or it
takes a value: a text, the path of a file or folder, or a number.
-/
namespace DiffBudget.CommandLine

inductive CommandName
  | assemble
  | patch
  | count
  | locate
  | models
  deriving DecidableEq, Repr

inductive Setting
  | base
  | head
  | repo
  | config
  | model
  | promptTokens
  | lineNumbers
  | noContext
  | json
  | clip
  | file
  | line
  deriving DecidableEq, Repr

inductive ValueSort
  | text
  | path
  | number
  deriving DecidableEq, Repr

namespace CommandName

def all : List CommandName := [assemble, patch, count, locate, models]

def name : CommandName → Text
  | assemble => "assemble".toList
  | patch => "patch".toList
  | count => "count".toList
  | locate => "locate".toList
  | models => "models".toList

def ofName? (t : Text) : Option CommandName := all.find? (·.name == t)

def renderSettings : List Setting :=
  [.config, .model, .promptTokens, .lineNumbers, .noContext, .json]

def settings : CommandName → List Setting
  | assemble => .base :: .head :: .repo :: renderSettings
  | patch => renderSettings
  | count => [.model, .clip]
  | locate => [.file, .line]
  | models => []

def required : CommandName → List Setting
  | assemble => [.base]
  | locate => [.file, .line]
  | _ => []

theorem ofName?_name (c : CommandName) : ofName? c.name = some c := by
  cases c <;> decide

theorem required_subset (c : CommandName) : ∀ s ∈ c.required, s ∈ c.settings := by
  cases c <;> decide

end CommandName

namespace Setting

def name : Setting → Text
  | base => "base".toList
  | head => "head".toList
  | repo => "repo".toList
  | config => "config".toList
  | model => "model".toList
  | promptTokens => "prompt-tokens".toList
  | lineNumbers => "line-numbers".toList
  | noContext => "no-context".toList
  | json => "json".toList
  | clip => "clip".toList
  | file => "file".toList
  | line => "line".toList

def shown (s : Setting) : Text := '-' :: '-' :: s.name

def valueSort? : Setting → Option ValueSort
  | base | head | model | file | line => some .text
  | repo | config => some .path
  | promptTokens | clip => some .number
  | lineNumbers | noContext | json => none

end Setting

end DiffBudget.CommandLine
