import DiffBudget.Assembly.Basic

/-!
# Assembling over a shared list

A list of files may be assembled more than once, and every record has room for one cost. The first
pass writes the cost of the full rendering into the record of each file that is prepared. If the
diff is compressed, the files are put into order by what their records hold then.
-/
namespace DiffBudget.Assembly

variable (o : AssemblyOptions) (count : TokenCounter)

/-- What the first pass has come to so far. -/
structure FullPass where
  account : Account
  texts : List Text := []
  records : List FileChange := []

def FullPass.step (s : FullPass) (f : FileChange) : FullPass :=
  match f.prepare with
  | .ready p =>
    let text := p.fullText o
    { account := s.account.charge (count text)
      texts := s.texts ++ [text]
      records := s.records ++ [{ f with tokenCount := some (count text) }] }
  | _ => { s with records := s.records ++ [f] }

def fullPass (files : List FileChange) (promptTokens : Nat) : FullPass :=
  files.foldl (FullPass.step o count) { account := .start o promptTokens }

/-- The prepared files with the costs that the records of the list hold, 0 where there is none. -/
def recordedFiles (files records : List FileChange) : List MeasuredFile :=
  (files.zip records).filterMap fun q =>
    q.1.prepare.ready?.map fun p => ⟨p, q.2.tokenCount.getD 0⟩

def ofVisits (faulty : List Text) (run : List (PreparedFile × Outcome) × Compression.State) :
    Assembled :=
  { text := Compression.text run.1
    skipped := faulty ++ Compression.namesOf .skipped run.1
    summarized := Compression.namesOf .summarized run.1
    deleted := Compression.namesOf .deleted run.1
    totalTokens := run.2.account.total
    compressed := true }

/-- The result, and the list with the costs in its records. -/
def assembleShared (files : List FileChange) (promptTokens : Nat) :
    Assembled × List FileChange :=
  let pass := fullPass o count files promptTokens
  let faulty := faultyNames files
  if pass.account.withinSoftReserve then
    ({ text := Text.joinLines pass.texts
       skipped := faulty
       summarized := []
       deleted := []
       totalTokens := pass.account.total
       compressed := false }, pass.records)
  else
    (ofVisits faulty
      (Compression.run o count promptTokens (recordedFiles files pass.records)), pass.records)

end DiffBudget.Assembly
