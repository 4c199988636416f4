import DiffBudget.EditScript.Basic

/-!
# Sliding changes together

Often a change can be moved along the sequence without changing its effect: an insertion slides
up over the equal items before it when they end as the inserted ones do. Every deletion, and then
every insertion, is moved up as far as it goes and down again. On its way it passes changes of
the other kind and joins those of its own kind, so neighbouring changes come together. Finally
neighbouring equal runs are joined, and neighbouring changes become one operation.

The place of the operation that moves is a cursor: the operations before it, the nearest first,
the operation, and those behind it.
-/
namespace DiffBudget.EditScript

structure Cursor where
  before : List EditOp
  here : EditOp
  behind : List EditOp

variable {α : Type} [DecidableEq α]

/-- How far the end of an equal run agrees with the end of a change's new range. -/
def slackUp (old new : Array α) (run change : EditOp) : Nat :=
  commonBack old new run.oldEnd change.newEnd (min run.oldCount change.newCount)

def slackDown (old new : Array α) (run change : EditOp) : Nat :=
  commonFront old new run.oldIndex change.newIndex (min run.oldCount change.newCount)

def growBehind (run change : EditOp) (s : Nat) : List EditOp → List EditOp
  | op :: ops =>
    if op.tag = .equal then op.growLeft s :: ops
    else .equal (run.oldEnd - s) (change.newEnd - s) s :: op :: ops
  | [] => [.equal (run.oldEnd - s) (change.newEnd - s) s]

def growBefore (run change : EditOp) (s : Nat) : List EditOp → List EditOp
  | op :: ops =>
    if op.tag = .equal then op.growRight s :: ops
    else .equal run.oldIndex change.newIndex s :: op :: ops
  | [] => [.equal run.oldIndex change.newIndex s]

def width (op : EditOp) : Nat := if op.tag = .insert then op.newCount else op.oldCount

def slideUp (old new : Array α) (here : EditOp) (behind : List EditOp) :
    List EditOp → Cursor
  | [] => ⟨[], here, behind⟩
  | prev :: before =>
    if prev.tag = .equal then
      let s := slackUp old new prev here
      if 0 < s then
        let behind' := growBehind prev here s behind
        let here' := here.shiftLeft s
        if s < prev.oldCount then
          slideUp old new here' behind' (prev.shrinkLeft s :: before)
        else slideUp old new here' behind' before
      else if prev.isEmpty then slideUp old new here behind before
      else ⟨prev :: before, here, behind⟩
    else if prev.tag = here.tag then
      slideUp old new (prev.growRight (width here)) behind before
    else slideUp old new here (prev :: behind) before
termination_by before => (before.length, (before.head?.map (·.oldCount)).getD 0)
decreasing_by
  · simp_wf
    right
    simp only [EditOp.shrinkLeft, EditOp.resize, *]
    omega
  all_goals
    simp_wf
    left
    omega

def slideDown (old new : Array α) (before : List EditOp) (here : EditOp) :
    List EditOp → Cursor
  | [] => ⟨before, here, []⟩
  | next :: behind =>
    if next.tag = .equal then
      let s := slackDown old new next here
      if 0 < s then
        let before' := growBefore next here s before
        let here' := here.shiftRight s
        if s < next.oldCount then
          slideDown old new before' here' (next.shrinkRight s :: behind)
        else slideDown old new before' here' behind
      else if next.isEmpty then slideDown old new before here behind
      else ⟨before, here, next :: behind⟩
    else if next.tag = here.tag then
      slideDown old new before (here.growRight (width next)) behind
    else slideDown old new (next :: before) here behind
termination_by behind => (behind.length, (behind.head?.map (·.oldCount)).getD 0)
decreasing_by
  · simp_wf
    right
    simp only [EditOp.shrinkRight, EditOp.shiftRight, EditOp.resize, *]
    omega
  all_goals
    simp_wf
    left
    omega

/-- Every operation of one kind slid up and down, from the front of the script to its end. The
number of turns bounds how many operations of the kind are met. -/
def slideKind (old new : Array α) (tag : EditTag) :
    Nat → List EditOp → List EditOp → List EditOp
  | 0, before, ops => before.reverse ++ ops
  | turns + 1, before, ops =>
    match ops.dropWhile (·.tag != tag) with
    | [] => before.reverse ++ ops
    | here :: behind =>
      let up := slideUp old new here behind ((ops.takeWhile (·.tag != tag)).reverse ++ before)
      let down := slideDown old new up.before up.here up.behind
      slideKind old new tag turns (down.here :: down.before) down.behind

def slideAll (old new : Array α) (tag : EditTag) (script : List EditOp) : List EditOp :=
  slideKind old new tag (script.countP (·.tag == tag)) [] script

def joinSame (a b : EditOp) : EditOp := a.growRight (width b)

/-- A run of changes as one operation: its deletions and its insertions, each joined. -/
def changeOf (changes : List EditOp) : List EditOp :=
  let total (tag : EditTag) : Option EditOp :=
    match changes.filter (·.tag == tag) with
    | [] => none
    | op :: ops => some (ops.foldl joinSame op)
  match total .delete, total .insert with
  | some d, some i => [⟨.replace, d.oldIndex, d.oldCount, i.newIndex, i.newCount⟩]
  | some d, none => [d]
  | none, some i => [i]
  | none, none => []

def joinRun : List EditOp → List EditOp
  | [] => []
  | op :: ops =>
    if op.tag = .equal then [ops.foldl (fun a b => a.growRight b.oldCount) op]
    else changeOf (op :: ops)

def join (script : List EditOp) : List EditOp :=
  (script.splitBy fun a b => (a.tag == .equal) == (b.tag == .equal)).flatMap joinRun

def tidy (old new : Array α) (script : List EditOp) : List EditOp :=
  join (slideAll old new .insert (slideAll old new .delete script))

end DiffBudget.EditScript
