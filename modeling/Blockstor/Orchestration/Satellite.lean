import Blockstor.Orchestration.Server

namespace Blockstor.Orchestration.Satellite

open Framework Shell

variable (node : String)

def snapshotFinalizerRequeue : Nat := Store.second

variable (snap : Snapshot)

def handleSuspendPhase : Prog Result := do
  match ← ask (.suspendResource node snap.resourceDefinitionName snap.name) with
  | .error _ =>
    lift (← ask (.patch snap.name (.failed node)))
    pure .none
  | .ok _ =>
    lift (← ask (.patch snap.name (.suspendAcked node)))
    pure .none

/-- Resume the resource and take the acknowledgement back; a failure to resume is tried again. -/
def handleResumePhase : Prog Result := do
  match ← ask (.resumeResource node snap.resourceDefinitionName snap.name) with
  | .error _ => pure ⟨true,0⟩
  | .ok _ =>
    lift (← ask (.patch snap.name (.suspendCleared node)))
    pure .none

def handleTakeSnapshotPhase : Prog Result := do
  match ← ask (.flushBackingDevices node snap.resourceDefinitionName snap.volumeNumbers) with
  | .error _ => pure ⟨true,0⟩
  | .ok _ =>
    let resp ← lift (← ask
      (.createSnapshot node snap.resourceDefinitionName snap.snapshotName snap.volumeNumbers))
    if resp.ok then
      lift (← ask (.patch snap.name (.ready node resp.createTimestamp)))
      pure .none
    else if resp.terminal then
      lift (← ask (.patch snap.name (.failed node)))
      pure .none
    else pure ⟨true,0⟩

def handleCreate : Prog Result :=
  if snap.suspendIO && !perNodeStatusSuspendIOAcked snap.nodeStatus node then
    handleSuspendPhase node snap
  else if ! snap.suspendIO && perNodeStatusSuspendIOAcked snap.nodeStatus node then
    handleResumePhase node snap
  else if !snap.takeSnapshot then pure .none
  else if perNodeStatusReady snap.nodeStatus node then pure .none
  else handleTakeSnapshotPhase node snap

def handleDelete : Prog Result := do
  if satelliteSnapshotFinalizer∉snap.finalizers then pure .none
  else
    let ok ← lift (← ask
      (.deleteSnapshot node snap.resourceDefinitionName snap.snapshotName))
    if !ok then pure ⟨true,0⟩
    else
      lift (← ask (.updateFinalizers snap
        (snap.finalizers.filter fun f => f≠satelliteSnapshotFinalizer)))
      pure .none

def handle : Prog Result := do
  if node∉snap.nodes then pure .none
  else if snap.deletionTimestamp≠none then handleDelete node snap
  else if satelliteSnapshotFinalizer∉snap.finalizers then
    lift (← ask (.updateFinalizers snap (snap.finalizers++[satelliteSnapshotFinalizer])))
    pure ⟨false,snapshotFinalizerRequeue⟩
  else handleCreate node snap

def answered : Except Err Snapshot → Prog Result
  | .error .notFound => pure .none
  | .error e => throw e
  | .ok snap => handle node snap

/-- The satellite's `SnapshotReconciler.Reconcile`. -/
def reconcile : Prog Result := do
  let name ← ask (.dequeue (.satellite node))
  let answer ← ask (.getSnapshot name)
  answered node answer

end Blockstor.Orchestration.Satellite
