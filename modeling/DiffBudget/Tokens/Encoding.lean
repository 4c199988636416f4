import DiffBudget.Text.Number

/-!
# Encodings

A GPT model that the vocabulary library knows, by its name or by the beginning of its name, is
counted with its own encoding. Every other model shares one encoding.
-/
namespace DiffBudget.Encoding

def fallback : Text := "cl100k_base".toList

def knownNames : List Text :=
  ["gpt-4.1".toList, "chatgpt-4o-latest".toList, "gpt-4o".toList, "gpt-4".toList,
   "gpt-3.5-turbo".toList, "gpt-3.5".toList, "gpt-35-turbo".toList, "gpt2".toList,
   "gpt-2".toList]

def knownBeginnings : List Text :=
  ["gpt-4.1-".toList, "chatgpt-4o-".toList, "gpt-4o-".toList, "gpt-4-".toList,
   "gpt-3.5-turbo-".toList, "gpt-35-turbo-".toList, "ft:gpt-4o".toList, "ft:gpt-4".toList,
   "ft:gpt-3.5-turbo".toList]

def isKnown (model : Text) : Bool :=
  knownNames.contains model || knownBeginnings.any (·.isPrefixOf model)

def ofModel (model : Text) : Text := if isKnown model then model else fallback

end DiffBudget.Encoding
