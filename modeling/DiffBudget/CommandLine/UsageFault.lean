import DiffBudget.CommandLine.Setting
import DiffBudget.Failure

/-!
# Mistakes in the arguments

Why arguments name no task. Asking for help or for the version ends the reading of the arguments
like a mistake, but it is none.
-/
namespace DiffBudget.CommandLine

inductive UsageFault
  | helpAsked (command : Option CommandName)
  | versionAsked (command : Option CommandName)
  | nothingGiven
  | commandMissing
  | unknownCommand (name : Text)
  | unknownArgument (argument : Text)
  | requiredMissing (settings : List Setting)
  | valueMissing (setting : Setting)
  | valueInvalid (setting : Setting) (value : Text)
  | givenTwice (setting : Setting)
  | valueForSwitch (argument : Text)
  deriving DecidableEq, Repr

namespace UsageFault

def isAnswer : UsageFault → Bool
  | helpAsked _ | versionAsked _ => true
  | _ => false

def message : UsageFault → Text
  | helpAsked _ => "help was asked for".toList
  | versionAsked _ => "the version was asked for".toList
  | nothingGiven => "no arguments are given".toList
  | commandMissing => "a command is missing".toList
  | unknownCommand name => "there is no command ".toList ++ quoted name
  | unknownArgument argument => "unexpected argument ".toList ++ quoted argument
  | requiredMissing settings =>
    "required and missing: ".toList ++ ", ".toList.intercalate (settings.map Setting.shown)
  | valueMissing setting => setting.shown ++ " needs a value".toList
  | valueInvalid setting value =>
    "invalid value ".toList ++ quoted value ++ " for ".toList ++ setting.shown
  | givenTwice setting => setting.shown ++ " is given more than once".toList
  | valueForSwitch argument => "unexpected value in ".toList ++ quoted argument

def exitCode (f : UsageFault) : Nat := if f.isAnswer then 0 else 2

theorem exitCode_eq_zero_iff (f : UsageFault) : f.exitCode = 0 ↔ f.isAnswer := by
  unfold exitCode
  split <;> simp_all

end UsageFault
end DiffBudget.CommandLine
