import DiffBudget.Assembly.Report
import DiffBudget.Assembly.Shared
import DiffBudget.CommandLine.Task
import DiffBudget.Config.Discovery
import DiffBudget.Location
import DiffBudget.Repository.Project
import DiffBudget.Tokens.Clip
import DiffBudget.Tokens.LimitList

/-!
# Carrying out a task

A task is carried out in a folder of a project, with a text to read. Its outcome is the text that
it prints, or the first failure: that of the text to read, of the repository, of the
configuration, of the changes, of the patterns and limits, in this order.
-/
namespace DiffBudget.CommandLine

open Utf8 (Bytes)

structure Surroundings where
  project : Project
  /-- The parts of the path of the current folder, below the top of the project. -/
  here : List Text := []
  input : Bytes := []
  limits : PatternLimits := .estimated

namespace Surroundings

def folderPath (s : Surroundings) : Text := s.project.workspace.fullPath s.here

def inputText (s : Surroundings) : Except Failure Text :=
  match Utf8.decode? s.input with
  | some t => .ok t
  | none => .error (.stdinUnreadable Config.notText)

def config (s : Surroundings) (render : RenderSettings) (root : Option Text) :
    Except Failure Config := do
  let c ← Config.discover s.project.workspace s.here render.config root s.limits
  let c := { c with
    model := render.model.getD c.model
    lineNumbers := c.lineNumbers || render.lineNumbers }
  return if render.noContext then { c with contextLinesBefore := 0, contextLinesAfter := 0 } else c

end Surroundings

def counterOf (model : Text) : TokenCounter := (TokenProfile.ofModel model).estimate

def assembleFiles (limits : PatternLimits) (c : Config) (promptTokens : Nat)
    (files : List FileChange) : Except Failure Assembled := do
  let filter ← c.fileFilter limits
  let options ← c.assemblyOptions
  return (Assembly.assembleShared options (counterOf c.model) (filter.apply files) promptTokens).1

namespace Task

def assembleRepository (s : Surroundings) (base head : Text) (repo : Option Text)
    (render : RenderSettings) : Except Failure Assembled := do
  let root ← s.project.root s.here (repo.getD s.folderPath)
  let c ← s.config render (some root)
  let files ← s.project.collect s.here root base head
  assembleFiles s.limits c render.promptTokens files

def assembleInput (s : Surroundings) (render : RenderSettings) : Except Failure Assembled := do
  let diff ← s.inputText
  let c ← s.config render (s.project.root s.here s.folderPath).toOption
  assembleFiles s.limits c render.promptTokens (FileChange.ofDiff diff)

def countInput (s : Surroundings) (model : Text) (clip : Option Nat) : Except Failure Text := do
  let t ← s.inputText
  match clip with
  | some most => return Text.clip (counterOf model) most t
  | none => return Text.ofNat (counterOf model t)

def locateInput (s : Surroundings) (file line : Text) : Except Failure Text := do
  match Location.find? (FileChange.ofDiff (← s.inputText)) file line with
  | some l => return Text.ofNat l.position ++ ' ' :: Text.ofNat l.line
  | none => .error (.lineNotFound line file)

def run (s : Surroundings) : Task → Except Failure Text
  | assemble base head repo render => do
    return (← assembleRepository s base head repo render).report render.json ++ ['\n']
  | patch render => do return (← assembleInput s render).report render.json ++ ['\n']
  | count model clip => do return (← countInput s model clip) ++ ['\n']
  | locate file line => do return (← locateInput s file line) ++ ['\n']
  | models => .ok (ModelLimit.listed ModelLimit.builtin)

end Task
end DiffBudget.CommandLine
