import DiffBudget.Failure

/-!
# Context windows

The number of tokens that each known model takes. An entry of the configuration goes before the
table, and a cap lowers what is found. A cap of 0 is no cap.
-/
namespace DiffBudget.ModelLimit

def builtin : List (Text × Nat) :=
  [("text-embedding-ada-002".toList, 8000),
   ("gpt-3.5-turbo".toList, 16000),
   ("gpt-3.5-turbo-0125".toList, 16000),
   ("gpt-3.5-turbo-0613".toList, 4000),
   ("gpt-3.5-turbo-1106".toList, 16000),
   ("gpt-3.5-turbo-16k".toList, 16000),
   ("gpt-4".toList, 8000),
   ("gpt-4-0613".toList, 8000),
   ("gpt-4-32k".toList, 32000),
   ("gpt-4-1106-preview".toList, 128000),
   ("gpt-4-0125-preview".toList, 128000),
   ("gpt-4-turbo".toList, 128000),
   ("gpt-4-turbo-preview".toList, 128000),
   ("gpt-4o".toList, 128000),
   ("gpt-4o-2024-05-13".toList, 128000),
   ("claude-instant-1".toList, 100000),
   ("claude-2".toList, 100000),
   ("anthropic/claude-3-opus-20240229".toList, 100000),
   ("anthropic/claude-3-5-sonnet-20240620".toList, 100000),
   ("bedrock/anthropic.claude-v2".toList, 100000),
   ("bedrock/anthropic.claude-3-sonnet-20240229-v1:0".toList, 100000),
   ("bedrock/anthropic.claude-3-haiku-20240307-v1:0".toList, 100000),
   ("bedrock/anthropic.claude-3-5-sonnet-20240620-v1:0".toList, 100000),
   ("vertex_ai/claude-3-5-sonnet@20240620".toList, 100000),
   ("vertex_ai/gemini-1.5-pro".toList, 1048576),
   ("codechat-bison".toList, 6144),
   ("codechat-bison-32k".toList, 32000),
   ("command-nightly".toList, 4096),
   ("groq/llama3-8b-8192".toList, 8192),
   ("groq/llama3-70b-8192".toList, 8192),
   ("ollama/llama3".toList, 4096)]

def builtin? (model : Text) : Option Nat := builtin.lookup model

def capped (cap : Option Nat) (limit : Nat) : Nat :=
  match cap with
  | some c => if 0 < c then min limit c else limit
  | none => limit

def resolve (model : Text) (overrides : List (Text × Nat)) (cap : Option Nat) :
    Except Failure Nat :=
  match (overrides.lookup model).or (builtin? model) with
  | some limit => .ok (capped cap limit)
  | none => .error (.unknownModel model)

end DiffBudget.ModelLimit
