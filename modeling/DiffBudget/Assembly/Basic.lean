import DiffBudget.Assembly.Compression

/-!
# Assembling the diff of a pull request

Every file that can be prepared is rendered with context and measured. If the prompt and all
these renderings leave the soft reserve free, they are the result; otherwise the diff is
compressed. Files that cannot be prepared are named among the skipped ones and never stop a run.
-/
namespace DiffBudget

structure Assembled where
  text : Text
  /-- Files left out: not readable, or visited with nothing left above the hard reserve. -/
  skipped : List Text
  /-- Files listed by name instead of being shown. -/
  summarized : List Text
  /-- Files listed by name because nothing of them is left to show. -/
  deleted : List Text
  totalTokens : Nat
  compressed : Bool
  deriving DecidableEq, Repr

namespace Assembly

variable (o : AssemblyOptions) (count : TokenCounter)

def measure (p : PreparedFile) : MeasuredFile := ⟨p, count (p.fullText o)⟩

def readyFiles (files : List FileChange) : List PreparedFile :=
  files.filterMap fun f => f.prepare.ready?

def faultyNames (files : List FileChange) : List Text :=
  (files.filter (·.prepare.isFaulty)).map (·.filename)

def measuredFiles (files : List FileChange) : List MeasuredFile :=
  (readyFiles files).map (measure o count)

def fullAccount (files : List FileChange) (promptTokens : Nat) : Account :=
  (Account.start o promptTokens).chargeAll ((measuredFiles o count files).map (·.cost))

def fullResult (files : List FileChange) (promptTokens : Nat) : Assembled :=
  { text := Text.joinLines ((readyFiles files).map (·.fullText o))
    skipped := faultyNames files
    summarized := []
    deleted := []
    totalTokens := (fullAccount o count files promptTokens).total
    compressed := false }

def compressedResult (files : List FileChange) (promptTokens : Nat) : Assembled :=
  let (visits, state) := Compression.run o count promptTokens (measuredFiles o count files)
  { text := Compression.text visits
    skipped := faultyNames files ++ Compression.namesOf .skipped visits
    summarized := Compression.namesOf .summarized visits
    deleted := Compression.namesOf .deleted visits
    totalTokens := state.account.total
    compressed := true }

def result (files : List FileChange) (promptTokens : Nat) : Assembled :=
  if (fullAccount o count files promptTokens).withinSoftReserve then
    fullResult o count files promptTokens
  else compressedResult o count files promptTokens

def recordCost (f : FileChange) : FileChange :=
  match f.prepare with
  | .ready p => { f with tokenCount := some (measure o count p).cost }
  | _ => f

def assemble (files : List FileChange) (promptTokens : Nat) : Assembled × List FileChange :=
  (result o count files promptTokens, files.map (recordCost o count))

theorem length_assemble_files (files : List FileChange) (promptTokens : Nat) :
    (assemble o count files promptTokens).2.length = files.length := by
  simp [assemble]

end Assembly
end DiffBudget
