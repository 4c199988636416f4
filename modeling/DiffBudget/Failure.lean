import DiffBudget.Text.Number

/-!
# What can go wrong

A fault of one file never stops a run; a failure ends it. Each is named by its cause, and the
wording stands here in one place. A failure has one of three kinds, which decides the exit code.
-/
namespace DiffBudget

inductive ContentSide
  | old
  | new
  deriving DecidableEq, Repr

inductive FileFault
  | malformedHeader (line : Text)
  | notUtf8 (filename : Text) (side : ContentSide)
  deriving DecidableEq, Repr

inductive FailureKind
  | user
  | config
  | git
  deriving DecidableEq, Repr

inductive Failure
  | softReserveTooLarge (reserve limit : Nat)
  | hardReserveTooLarge (reserve limit : Nat)
  | unknownModel (model : Text)
  | unknownRevision (rev : Text)
  | outsideRepository (dir : Text)
  | gitMissing (reason : Text)
  | stdinUnreadable (reason : Text)
  | lineNotFound (line filename : Text)
  | configUnreadable (path reason : Text)
  | configMalformed (reason : Text)
  | emptyModel
  | zeroLimit (model : Text)
  | emptySuffix
  | invalidGlob (glob reason : Text)
  | invalidRegex (pattern reason : Text)
  /-- The globs are valid, but the one at this place is nested too deeply to be matched. -/
  | globTooDeep (place : Nat)
  | globsTooLarge
  | gitFailed (command : Text) (exitCode : Nat) (reason : Text)
  | gitNotStarted (command reason : Text)
  deriving DecidableEq, Repr

namespace ContentSide

def name : ContentSide → Text
  | old => "original".toList
  | new => "new".toList

end ContentSide

def quoted (t : Text) : Text := '\'' :: t ++ ['\'']

namespace FileFault

def message : FileFault → Text
  | malformedHeader line => "malformed hunk header: ".toList ++ quoted line
  | notUtf8 filename side =>
    side.name ++ " content of ".toList ++ quoted filename ++ " is not valid UTF-8".toList

end FileFault

namespace FailureKind

def exitCode : FailureKind → Nat
  | user => 1
  | config => 2
  | git => 3

def opening : FailureKind → Text
  | user => []
  | config => "Invalid configuration: ".toList
  | git => "Git operation failed: ".toList

end FailureKind

namespace Failure

def kind : Failure → FailureKind
  | softReserveTooLarge .. | hardReserveTooLarge .. | unknownModel _ | unknownRevision _
  | outsideRepository _ | gitMissing _ | stdinUnreadable _ | lineNotFound .. => .user
  | configUnreadable .. | configMalformed _ | emptyModel | zeroLimit _ | emptySuffix
  | invalidGlob .. | invalidRegex .. | globTooDeep _ | globsTooLarge => .config
  | gitFailed .. | gitNotStarted .. => .git

def cause : Failure → Text
  | softReserveTooLarge reserve limit => noRoom "soft".toList reserve limit
  | hardReserveTooLarge reserve limit => noRoom "hard".toList reserve limit
  | unknownModel model =>
    "unknown model ".toList ++ quoted model ++
      ": add it to model_token_limits in the configuration".toList
  | unknownRevision rev => "unknown revision ".toList ++ quoted rev
  | outsideRepository dir => dir ++ " is not inside a git repository".toList
  | gitMissing reason =>
    "failed to execute git: ".toList ++ reason ++ " (is git installed?)".toList
  | stdinUnreadable reason => "failed to read stdin: ".toList ++ reason
  | lineNotFound line filename =>
    "line ".toList ++ quoted line ++ " not found in the patch of ".toList ++ quoted filename
  | configUnreadable path reason =>
    "failed to read config file ".toList ++ quoted path ++ ": ".toList ++ reason
  | configMalformed reason => "failed to parse config YAML: ".toList ++ reason
  | emptyModel => "model must not be empty".toList
  | zeroLimit model =>
    "model_token_limits entry ".toList ++ quoted model ++ " must be greater than 0".toList
  | emptySuffix => "no_extend_suffixes entries must be non-empty".toList
  | invalidGlob glob reason =>
    "invalid glob in ignore_globs: ".toList ++ quoted glob ++ " - ".toList ++ reason
  | invalidRegex pattern reason =>
    "invalid regex in ignore_regex: ".toList ++ quoted pattern ++ " - ".toList ++ reason
  | globTooDeep place =>
    "failed to build ignore globs: error parsing pattern ".toList ++ Text.ofNat place
  | globsTooLarge => "failed to build ignore globs: error building NFA".toList
  | gitFailed command exitCode reason =>
    "git ".toList ++ command ++ " failed (exit code ".toList ++ Text.ofNat exitCode ++
      "): ".toList ++ reason
  | gitNotStarted command reason =>
    "failed to execute git ".toList ++ command ++ ": ".toList ++ reason
where
  noRoom (which : Text) (reserve limit : Nat) : Text :=
    which ++ " reserve of ".toList ++ Text.ofNat reserve ++
      " tokens leaves no room below the model limit of ".toList ++ Text.ofNat limit

def message (f : Failure) : Text := f.kind.opening ++ f.cause

def exitCode (f : Failure) : Nat := f.kind.exitCode

theorem exitCode_pos (f : Failure) : 0 < f.exitCode := by
  unfold exitCode FailureKind.exitCode
  cases f.kind <;> decide

end Failure
end DiffBudget
