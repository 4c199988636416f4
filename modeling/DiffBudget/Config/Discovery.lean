import DiffBudget.Config.Reader
import DiffBudget.Workspace.Basic

/-!
# Where the configuration is found

A configuration is read from the file that the user names, or else from the one at the top of the
repository. Without either, all settings have their defaults.
-/
namespace DiffBudget.Config

def fileName : Text := ".prdiff.yaml".toList

def repositoryPath (root : Text) : Text :=
  if root.getLast? = some '/' then root ++ fileName else root ++ '/' :: fileName

def notText : Text := "stream did not contain valid UTF-8".toList

def load (w : Workspace) (here : List Text) (path : Text) (limits : PatternLimits := .estimated) :
    Except Failure Config := do
  let bytes ← (w.read here path).mapError fun f => .configUnreadable path f.message
  match Utf8.decode? bytes with
  | some text => ofYaml text limits
  | none => .error (.configUnreadable path notText)

/-- The configuration that counts, given the file that the user names and the top of the
repository. -/
def discover (w : Workspace) (here : List Text) (explicit root : Option Text)
    (limits : PatternLimits := .estimated) : Except Failure Config :=
  match explicit, root with
  | some path, _ => load w here path limits
  | none, some root =>
    if w.isFile here (repositoryPath root) then load w here (repositoryPath root) limits
    else .ok {}
  | none, none => .ok {}

end DiffBudget.Config
