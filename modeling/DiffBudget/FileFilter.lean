import DiffBudget.Change.Basic
import DiffBudget.PatternLimits
import DiffBudget.Text.Shown

/-!
# Ignored files

A file is ignored when a glob describes its path or a pattern is found at the start of its path.
Patterns are tied to the start by what is written around them before they are read.
-/
namespace DiffBudget

def compileGlob (glob : Text) : Except Failure (List Glob.Token) :=
  (Glob.parse glob).mapError fun e => .invalidGlob glob e.message

/-- What a regex stands for once it is put between the given texts; the failure names the regex
alone. -/
def compileRegex (limits : PatternLimits) (before pattern after : Text) : Except Failure Regex :=
  (limits.compile (before ++ pattern ++ after)).mapError fun e => .invalidRegex pattern e.message

/-- The globs as they are matched, if none of them is nested too deeply and all of them together are
within the limits. -/
def buildGlobs (limits : PatternLimits) (globs : List Text) :
    Except Failure (List (List Glob.Token)) := do
  let read ← globs.mapM compileGlob
  match read.findIdx? Glob.isTooDeep with
  | some place => throw (.globTooDeep place)
  | none => if limits.globsFit globs then return read else throw .globsTooLarge

structure FileFilter where
  globs : List (List Glob.Token)
  patterns : List (Text × Regex)

namespace FileFilter

def anchorStart : Text := "^(?:".toList

def anchorEnd : Text := ")".toList

def ofPatterns (globs patterns : List Text) (limits : PatternLimits := .estimated) :
    Except Failure FileFilter := do
  let globs ← buildGlobs limits globs
  let patterns ← patterns.mapM fun p =>
    (compileRegex limits anchorStart p anchorEnd).map fun r => (anchorStart ++ p ++ anchorEnd, r)
  return ⟨globs, patterns⟩

def ignores (f : FileFilter) (path : Text) : Bool :=
  f.globs.any (Glob.describes · (Utf8.encode path)) || f.patterns.any (·.2.occursIn path)

def apply (f : FileFilter) (files : List FileChange) : List FileChange :=
  files.filter fun c => !f.ignores c.filename

def shown (f : FileFilter) : Text :=
  "FileFilter \x7b globs: ".toList ++ Text.ofNat f.globs.length ++ ", patterns: [".toList ++
    ", ".toList.intercalate (f.patterns.map fun p => Text.shown p.1) ++ "] \x7d".toList

theorem apply_sublist (f : FileFilter) (files : List FileChange) :
    (f.apply files).Sublist files :=
  List.filter_sublist

end FileFilter
end DiffBudget
