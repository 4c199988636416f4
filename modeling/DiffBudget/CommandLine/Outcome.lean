import DiffBudget.CommandLine.Help
import DiffBudget.CommandLine.Run

/-!
# Outcomes

What a run of the program leaves behind: a text for its reader, a complaint, and an exit code. A
complaint comes with an exit code that is not zero, and then there is no text.
-/
namespace DiffBudget.CommandLine

structure Outcome where
  exitCode : Nat := 0
  output : Text := []
  complaint : Text := []
  deriving DecidableEq, Repr

namespace Outcome

def ofFailure (f : Failure) : Outcome :=
  { exitCode := f.exitCode, complaint := "Error: ".toList ++ f.message ++ ['\n'] }

def ofUsage : UsageFault → Outcome
  | .helpAsked command => { output := Help.text command }
  | .versionAsked command => { output := Help.version command }
  | .nothingGiven => { exitCode := UsageFault.nothingGiven.exitCode, complaint := Help.text none }
  | f =>
    { exitCode := f.exitCode
      complaint := Text.unlines ["error: ".toList ++ f.message, [], Help.usageLine none, [],
        "For more information, try '--help'.".toList] }

def ofResult : Except Failure Text → Outcome
  | .ok t => { output := t }
  | .error f => ofFailure f

end Outcome

def outcome (s : Surroundings) (args : List Text) : Outcome :=
  match Invocation.read args with
  | .ok i => .ofResult (i.task.run s)
  | .error f => .ofUsage f

end DiffBudget.CommandLine
