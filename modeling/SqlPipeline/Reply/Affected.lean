import SqlPipeline.Reply.Basic

/-!
The number of rows that a statement affected. For a keyed statement a missing row and a row that did
not change are concurrency violations.
-/

namespace SqlPipeline
namespace Reply

/-- The whole number in the first cell of an answer, if there is one. -/
def firstInteger (answer? : Option Wire.ResponseEntry) : Except Fault (Option Int) :=
  match answer?.bind Wire.ResponseEntry.result? with
  | none => .ok none
  | some result =>
      if result.rows.isEmpty then .ok none
      else
        match Wire.decodeCell .anything result.firstCell with
        | .ok (.int n) => .ok (some n)
        | .ok _ => .ok none
        | .error fault => .error fault

def versionText (version : Value) : Except Fault (Option Text) :=
  if version.isNull then .ok none else (orTooLong version.display?).map some

/-- The violation of a key whose row is not there. -/
def rowMissing (batch : Batch) : Outcome α := do
  let versionText? ← Fault.lift (versionText batch.expectedVersion)
  let keyText ← Fault.lift (orTooLong batch.key.display?)
  let cause := Cause.rowMissing batch.key batch.expectedVersion keyText versionText?
  .error (.library (.ofSql cause batch.sql))

/-- The violation of a key whose row did not change. -/
def rowChanged (batch : Batch) : Outcome α := do
  let keyText ← Fault.lift (orTooLong batch.key.display?)
  .error (.library (.ofSql (.rowChanged batch.key batch.expectedVersion keyText) batch.sql))

def affectedByChanges (batch : Batch) (entry : Wire.ResponseEntry) : Outcome Int := do
  match ← Fault.lift (firstInteger (some entry)) with
  | none => .ok 0
  | some changes => if changes = 0 ∧ batch.isKeyed then rowChanged batch else .ok changes

/-- Rows changed or removed. The check that the row is there comes first; without a count of
changes none are reported. -/
def affectedByModification (batch : Batch) (reply : Reply) : Outcome Int := do
  let found ← Fault.lift (firstInteger (reply.answerTo? batch .verify))
  if found = some 0 then rowMissing batch
  else
    match reply.answerTo? batch .changes with
    | none => .ok 0
    | some entry => affectedByChanges batch entry

def affectedByMain (batch : Batch) (reply : Reply) : Int :=
  match (reply.answerTo? batch .main).bind Wire.ResponseEntry.result? with
  | some result => result.affected
  | none => 0

def affected (batch : Batch) (reply : Reply) : Outcome Int :=
  if batch.mainOperation.modifies then affectedByModification batch reply
  else .ok (affectedByMain batch reply)

end Reply
end SqlPipeline
