import DiffBudget.CommandLine.UsageFault
import DiffBudget.Text.Lines

/-!
# Help

What the program and its commands do, as told to someone who asks: a summary, the way they are
called, and one row for each command and setting.
-/
namespace DiffBudget.CommandLine

def programName : Text := "prdiff".toList

def programVersion : Text := "0.1.0".toList

def programSummary : Text :=
  "Token-budgeted pull request diff compaction for LLM review prompts".toList

namespace CommandName

def summary : CommandName → Text
  | assemble => "Assemble the diff between two revisions of a local repository".toList
  | patch => "Assemble a multi-file unified diff read from stdin".toList
  | count => "Count the tokens of text read from stdin".toList
  | locate => "Find a line of a diff read from stdin, as needed for inline comments".toList
  | models => "List the built-in model token limits".toList

end CommandName

namespace Setting

def summary : Setting → Text
  | base => "Base revision (the pull request's target)".toList
  | head => "Head revision (the pull request's source) [default: HEAD]".toList
  | repo => "Repository directory (default: current directory)".toList
  | config => "Configuration file (default: .prdiff.yaml at the repository root)".toList
  | model => "Model whose token limit and tokenizer are used".toList
  | promptTokens => "Tokens already used by the rest of the prompt [default: 0]".toList
  | lineNumbers => "Render hunks with absolute new-file line numbers".toList
  | noContext => "Do not extend hunks with surrounding context".toList
  | json => "Print the full result as JSON instead of the diff text".toList
  | clip => "Print the text clipped to this many tokens instead of the count".toList
  | file => "File whose patch is searched".toList
  | line => "Text of the line to find".toList

def placeholder (s : Setting) : Text :=
  '<' :: s.name.map (fun c => if c = '-' then '_' else c.toUpper) ++ ['>']

def usage (s : Setting) : Text :=
  if s.valueSort?.isSome then s.shown ++ ' ' :: s.placeholder else s.shown

end Setting

namespace Help

def rows (entries : List (Text × Text)) : List Text :=
  let width := (entries.map (·.1.length)).foldl max 0
  entries.map fun e =>
    "  ".toList ++ e.1 ++ List.replicate (width - e.1.length) ' ' ++ "  ".toList ++ e.2

def generalEntries : List (Text × Text) :=
  [("-v, --verbose...", "Increase log verbosity (-v info, -vv debug)"),
    ("-h, --help", "Print help"), ("-V, --version", "Print version")].map
    fun e => (e.1.toList, e.2.toList)

def commandEntries : List (Text × Text) :=
  CommandName.all.map (fun c => (c.name, c.summary)) ++
    [("help".toList, "Print this message or the help of the given subcommand(s)".toList)]

def settingEntries (c : CommandName) : List (Text × Text) :=
  c.settings.map fun s => ("    ".toList ++ s.usage, s.summary)

def usageLine : Option CommandName → Text
  | none => "Usage: ".toList ++ programName ++ " [OPTIONS] <COMMAND>".toList
  | some c =>
    "Usage: ".toList ++ programName ++ ' ' :: c.name ++ " [OPTIONS]".toList ++
      c.required.flatMap fun s => ' ' :: s.usage

def text : Option CommandName → Text
  | none =>
    Text.unlines ([programSummary, [], usageLine none, [], "Commands:".toList] ++
      rows commandEntries ++ [[], "Options:".toList] ++ rows generalEntries)
  | some c =>
    Text.unlines ([c.summary, [], usageLine (some c), [], "Options:".toList] ++
      rows (settingEntries c ++ generalEntries))

def version (c : Option CommandName) : Text :=
  programName ++ (c.map fun c => '-' :: c.name).getD [] ++ ' ' :: programVersion ++ ['\n']

end Help
end DiffBudget.CommandLine
