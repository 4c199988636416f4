import DiffBudget.Text.Lines

/-!
# What is wrong with a YAML stream
-/
namespace DiffBudget.Yaml

inductive Fault
  | forbiddenCharacter
  | unclosedQuote
  | unknownEscape
  | malformedCode
  | documentMarkInQuotes
  | tabInIndentation
  | colonBeforeIndicator
  | malformedBlockHeader
  | malformedName
  | malformedTag
  | malformedDirective
  | misplacedEntry
  | misplacedKey
  | misplacedValue
  | missingColon
  | unexpectedCharacter
  | unexpectedToken
  | repeatedDirective
  | unsupportedVersion
  | unknownTagHandle
  | unknownAnchor
  | severalDocuments
  | tooDeep
  deriving DecidableEq, Repr

namespace Fault

def message : Fault → Text
  | forbiddenCharacter => "control characters are not allowed".toList
  | unclosedQuote => "a quoted scalar is not closed".toList
  | unknownEscape => "found unknown escape character".toList
  | malformedCode => "did not find the hexadecimal number of a character".toList
  | documentMarkInQuotes => "found a document mark inside a quoted scalar".toList
  | tabInIndentation => "found a tab character in the indentation".toList
  | colonBeforeIndicator => "found unexpected ':'".toList
  | malformedBlockHeader => "did not find a block scalar after its indicator".toList
  | malformedName => "did not find the name of an anchor or alias".toList
  | malformedTag => "did not find a tag".toList
  | malformedDirective => "did not find a directive".toList
  | misplacedEntry => "sequence entries are not allowed in this context".toList
  | misplacedKey => "mapping keys are not allowed in this context".toList
  | misplacedValue => "mapping values are not allowed in this context".toList
  | missingColon => "could not find expected ':'".toList
  | unexpectedCharacter => "found character that cannot start any token".toList
  | unexpectedToken => "did not find expected node content".toList
  | repeatedDirective => "found duplicate directive".toList
  | unsupportedVersion => "found incompatible YAML document".toList
  | unknownTagHandle => "found undefined tag handle".toList
  | unknownAnchor => "unknown anchor".toList
  | severalDocuments => "the stream holds more than one document".toList
  | tooDeep => "the document is nested too deeply".toList

end Fault
end DiffBudget.Yaml
