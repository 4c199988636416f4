import DiffBudget.CommandLine.Outcome

/-!
# The program

Gathers what a task needs to know of its surroundings, and leaves its outcome there: a text, a
complaint and an exit code. The histories of repositories are not read, so only the configuration
at the top of a repository is known, and a task that compares revisions finds none.
-/
namespace DiffBudget.Program

open CommandLine

partial def readAll (s : IO.FS.Stream) (soFar : ByteArray) : IO ByteArray := do
  let more ← s.read 65536
  if more.isEmpty then return soFar else readAll s (soFar ++ more)

def withPath (w : Workspace) (path : Text) : IO Workspace := do
  let place := (← IO.currentDir) / String.ofList path
  match w.belowRoot? path with
  | none => return w
  | some below =>
    let key := Path.ofParts ((Path.parts below).filter (!·.isEmpty))
    if ← place.isDir then return w.makeFolders (key ++ ['/'])
    try
      return w.write key (← IO.FS.readBinFile place).toList
    catch _ => return w

/-- The number of parts of the nearest folder, among the one with the given parts and those that
hold it, in which a repository is kept. -/
def topSize? (parts : List Text) : Nat → IO (Option Nat)
  | 0 => return none
  | n + 1 => do
    let path := '/' :: Path.ofParts (parts.take (n + 1) ++ [Checkout.storeFolder])
    if ← ((← IO.currentDir) / String.ofList path).pathExists then return some (n + 1)
    else topSize? parts n

def projectAt (parts : List Text) (size : Nat) (path : Text) (repository : Option Repository) :
    IO Project := do
  let root := (parts.take size).flatMap ('/' :: ·)
  let below := (parts.drop size).flatMap (· ++ ['/'])
  return { workspace := ← withPath (Workspace.makeFolders { root } below) path, repository }

def renderSurroundings (render : RenderSettings) (parts : List Text) (input : List UInt8) :
    IO Surroundings := do
  let here := parts.flatMap ('/' :: ·)
  match render.config, ← topSize? parts parts.length with
  | some path, _ =>
    let full := if path.head? = some '/' then path else here ++ '/' :: path
    return { project := ← projectAt parts 0 full none, here := parts, input }
  | none, some size =>
    let config := Config.repositoryPath ((parts.take size).flatMap ('/' :: ·))
    return { project := ← projectAt parts size config (some {}), here := parts.drop size, input }
  | none, none => return { project := { workspace := { root := here } }, input }

def surroundings (task : Task) : IO Surroundings := do
  let parts := (Path.parts (← IO.currentDir).toString.toList).filter (!·.isEmpty)
  let input := readAll (← IO.getStdin) .empty
  match task with
  | .assemble _ _ _ render => renderSurroundings render parts []
  | .patch render => renderSurroundings render parts (← input).toList
  | .count .. | .locate .. =>
    return { project := { workspace := { root := [] } }, input := (← input).toList }
  | .models => return { project := { workspace := { root := [] } } }

def run (args : List Text) : IO CommandLine.Outcome := do
  match Invocation.read args with
  | .error f => return .ofUsage f
  | .ok i => return .ofResult (i.task.run (← surroundings i.task))

end DiffBudget.Program

def main (args : List String) : IO UInt32 := do
  let o ← DiffBudget.Program.run (args.map String.toList)
  (← IO.getStdout).putStr (String.ofList o.output)
  (← IO.getStderr).putStr (String.ofList o.complaint)
  return UInt32.ofNat o.exitCode
