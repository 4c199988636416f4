import DiffBudget.CommandLine.Reading

/-!
# Tasks

What the arguments ask for: a task with its settings, and how much is said about the work.
-/
namespace DiffBudget.CommandLine

structure RenderSettings where
  config : Option Text := none
  model : Option Text := none
  promptTokens : Nat := 0
  lineNumbers : Bool := false
  noContext : Bool := false
  json : Bool := false
  deriving DecidableEq, Repr

inductive Task
  | assemble (base head : Text) (repo : Option Text) (render : RenderSettings)
  | patch (render : RenderSettings)
  | count (model : Text) (clip : Option Nat)
  | locate (file line : Text)
  | models
  deriving DecidableEq, Repr

structure Invocation where
  verbosity : Nat
  task : Task
  deriving DecidableEq, Repr

inductive LogLevel
  | warn
  | info
  | debug
  deriving DecidableEq, Repr

def LogLevel.name : LogLevel → Text
  | warn => "warn".toList
  | info => "info".toList
  | debug => "debug".toList

def LogLevel.ofVerbosity : Nat → LogLevel
  | 0 => warn
  | 1 => info
  | _ => debug

def defaultHead : Text := "HEAD".toList

def defaultModel : Text := "gpt-4".toList

namespace Reading

def value? (r : Reading) (s : Setting) : Option Value := r.given.lookup s

def text? (r : Reading) (s : Setting) : Option Text :=
  match r.value? s with
  | some (.text t) => some t
  | _ => none

def number? (r : Reading) (s : Setting) : Option Nat :=
  match r.value? s with
  | some (.number n) => some n
  | _ => none

def renderSettings (r : Reading) : RenderSettings :=
  { config := r.text? .config
    model := r.text? .model
    promptTokens := (r.number? .promptTokens).getD 0
    lineNumbers := r.has .lineNumbers
    noContext := r.has .noContext
    json := r.has .json }

def task (r : Reading) : CommandName → Task
  | .assemble =>
    .assemble ((r.text? .base).getD []) ((r.text? .head).getD defaultHead) (r.text? .repo)
      r.renderSettings
  | .patch => .patch r.renderSettings
  | .count => .count ((r.text? .model).getD defaultModel) (r.number? .clip)
  | .locate => .locate ((r.text? .file).getD []) ((r.text? .line).getD [])
  | .models => .models

end Reading

def Invocation.read (args : List Text) : Except UsageFault Invocation := do
  let (command, r) ← CommandLine.read {} args
  return ⟨r.verbosity, r.task command⟩

end DiffBudget.CommandLine
