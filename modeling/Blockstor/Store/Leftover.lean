import Blockstor.Store.Server

namespace Blockstor.Store

open Framework Shell

inductive LeftoverProgress
  | unfinished
  | finished
  | foreign
  | tearingDown
  deriving DecidableEq

structure ReplicaCount where
  holding : Nat
  live : Nat
  total : Nat
  deriving DecidableEq

def holdsData (r : Replica) : Bool :=
  ResourceFlag.diskless∉r.flags ∧ ResourceFlag.tieBreaker∉r.flags

def isLive (r : Replica) : Bool := ResourceFlag.delete∉r.flags

def tally (replicas : List Replica) : ReplicaCount where
  holding := (replicas.filter fun r => isLive r && holdsData r).length
  live := (replicas.filter isLive).length
  total := replicas.length

variable (ctx : Option Nat) (rdName : String)

def countReplicas : Prog ReplicaCount := do
  let replicas ← lift (← ask ctx (.listReplicas rdName))
  pure (tally replicas)

structure LeftoverShape where
  missing : Bool
  smaller : Bool
  extra : Bool
  deriving DecidableEq

/-- The size recorded for a volume number; a later entry of the record replaces an earlier one. -/
def captured (snap : List VolumeDef) (number : Int) : Option Int :=
  (snap.reverse.find? fun v => v.volumeNumber=number).map VolumeDef.sizeKib

def leftoverAgainstSnapshot (snap targetVDs : List VolumeDef) : LeftoverShape where
  missing := snap.any fun v => targetVDs.all fun u => u.volumeNumber≠v.volumeNumber
  smaller := targetVDs.any fun u => (captured snap u.volumeNumber).any fun was => u.sizeKib<was
  extra := targetVDs.any fun u => (captured snap u.volumeNumber).isNone

variable (targetName : String)

def recordedSnapshotShape : Prog (Option (List VolumeDef)) := do
  unlessMissing (← ask ctx (.getDefinition targetName)) (pure none) fun rd =>
    pure (recordedRestoreVolumes rd.props)

def referenceShape (snap : Option (List VolumeDef)) : Prog (Option (List VolumeDef)) :=
  match snap with
  | some snap => pure (some snap)
  | none => recordedSnapshotShape ctx targetName

/-- The judgement itself, once everything is read. Only a target with volumes has a shape. -/
def judgeLeftover (count : ReplicaCount) (shape : LeftoverShape) (needReplica : Bool) :
    LeftoverProgress :=
  let tearingDown := count.total>0 ∧ count.live=0
  if shape.smaller ∨ shape.missing ∧ shape.extra then .foreign
  else if shape.missing then (if tearingDown then .tearingDown else .unfinished)
  else if !needReplica then .finished
  else if count.holding>0 then .finished
  else if tearingDown then .tearingDown
  else if shape.extra then .foreign
  else .unfinished

def assessLeftover (targetVDs : List VolumeDef)
    (snap : Option (List VolumeDef)) (needReplica : Bool) : Prog LeftoverProgress := do
  let count ← countReplicas ctx targetName
  if targetVDs.isEmpty then
    pure (if count.total>0 ∧ count.live=0 then .tearingDown else .unfinished)
  else
    -- without a reference the leftover is judged on its own volumes
    match ← referenceShape ctx targetName snap with
    | none => pure (judgeLeftover count ⟨false,false,false⟩ needReplica)
    | some snap => pure (judgeLeftover count (leftoverAgainstSnapshot snap targetVDs) needReplica)

def readsAsFinished (needReplica : Bool) : Prog Bool := do
  unlessMissing (← ask ctx (.getDefinition rdName)) (pure false) fun rd =>
    if rd.deleting then pure false
    else do
      unlessMissing (← ask ctx (.listVolumes rdName)) (pure false) fun vds => do
        let progress ← assessLeftover ctx rdName vds none needReplica
        pure (progress=.finished)

def volumesUpToDate (vols : List Volume) : Bool :=
  !vols.isEmpty && vols.all fun v => v.diskState=.upToDate

def holdsARestoredReplica : Prog Bool := do
  let replicas ← lift (← ask ctx (.listReplicas rdName))
  pure (replicas.any fun r => holdsData r && volumesUpToDate r.volumes)

def restoreMarkerClearRefusal : Prog Unit := do
  let finished ← readsAsFinished ctx rdName true
  if !finished then throw (.restoreUnfinished rdName)
  else
    let restored ← holdsARestoredReplica ctx rdName
    if !restored then throw (.restoreUnfinished rdName) else pure ()

/-- The restore of the definition is not finished, in the sense of the check its marker passes. -/
def Unfinished (s : State) (rdName : String) : Prop :=
  (simulate answer (restoreMarkerClearRefusal none rdName) s).1=.error (.restoreUnfinished rdName)

end Blockstor.Store
