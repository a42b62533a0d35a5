import Blockstor.Orchestration.Server

namespace Blockstor.Orchestration

open Framework Shell

variable (entries : List NodeStatus) (snap : Snapshot) (siblings : List Snapshot)
  (targets : List String)

def allTargetsMatch (pred : NodeStatus → Bool) : Bool :=
  targets.all fun t => (byNode entries t).any pred

def allNodesSuspendAcked : Bool :=
  allTargetsMatch entries targets NodeStatus.suspendIOAcked

def allNodesSuspendCleared : Bool :=
  allTargetsMatch entries targets fun e => !e.suspendIOAcked

def allNodesReady : Bool :=
  allTargetsMatch entries targets NodeStatus.ready

def anyNodeFailed : Bool := entries.any NodeStatus.failed

section Siblings

def allSiblingsSuspendAcked : Bool :=
  siblings.all fun x => allNodesSuspendAcked x.nodeStatus x.nodes

def allSiblingsSuspendCleared : Bool :=
  siblings.all fun x => allNodesSuspendCleared x.nodeStatus x.nodes

def allSiblingsReady : Bool := siblings.all fun x => allNodesReady x.nodeStatus x.nodes

def anySiblingFailed : Bool := siblings.any fun x => anyNodeFailed x.nodeStatus

end Siblings

def snapshotSuspendDeadline : Nat := 2*Store.minute

def snapshotSuspendRequeueCap : Nat := 15*Store.second

def groupAssembleRequeueAfter : Nat := Store.second

def inSuspendPhase : Bool :=
  snap.suspendIO && !allSiblingsReady siblings

def suspendDeadlineExceeded (now : Nat) : Bool :=
  snap.creationTimestamp.any fun created => created+snapshotSuspendDeadline < now

def suspendRequeueAfter (now : Nat) : Nat :=
  match snap.creationTimestamp with
  | none => snapshotSuspendRequeueCap
  | some created =>
    let remaining := created+snapshotSuspendDeadline-now
    if remaining=0 then Store.second
    else if remaining < snapshotSuspendRequeueCap then remaining
    else snapshotSuspendRequeueCap

structure PhaseDecision where
  suspendIO : Bool
  takeSnapshot : Bool
  advance : Bool
  deriving DecidableEq

variable (next : PhaseDecision)

/-- The flags the snapshot should carry next, from its own flags and the rows of the batch. -/
def nextPhase : PhaseDecision :=
  match snap.suspendIO,snap.takeSnapshot with
  | false,false =>
    if allSiblingsReady siblings || allSiblingsSuspendCleared siblings
    then ⟨false,false,false⟩ else ⟨true,false,true⟩
  | true,false =>
    if allSiblingsSuspendAcked siblings then ⟨true,true,true⟩ else ⟨true,false,false⟩
  | true,true => if allSiblingsReady siblings then ⟨false,false,true⟩ else ⟨true,true,false⟩
  | false,true => ⟨false,true,false⟩

def isPhase1Entry : Bool :=
  next.advance && next.suspendIO && !next.takeSnapshot && ! snap.suspendIO && !snap.takeSnapshot

def isPhase2Promotion : Bool :=
  next.advance && next.suspendIO && next.takeSnapshot && !snap.takeSnapshot

def groupAssembled : Bool :=
  snap.groupSize ≤ 0 || snap.groupSize ≤ siblings.length

def replicaUpToDate (res : Resource) : Bool :=
  res.volumes.all fun state => state=none ∨ state=some .upToDate

/-- A replica that counts for the snapshot: of its definition, on a targeted node, with a disk. -/
def targetedReplica (res : Resource) : Bool :=
  res.resourceDefinitionName=snap.resourceDefinitionName ∧ res.nodeName∈snap.nodes ∧
    Store.ResourceFlag.diskless∉res.flags ∧ Store.ResourceFlag.tieBreaker∉res.flags

def offendingReplica (resources : List Resource) : Option String :=
  (resources.find? fun res => targetedReplica snap res && !replicaUpToDate res).map Resource.nodeName

def allTargetedReplicasUpToDate : List Snapshot → Prog (Option String)
  | [] => pure none
  | x::xs => do
    let resources ← lift (← ask .listResources)
    match offendingReplica x resources with
    | some node => pure (some node)
    | none => allTargetedReplicasUpToDate xs

/-- The list with the fetched copy in its own place, or at the end where it is not listed. -/
def withSelf (snap : Snapshot) : List Snapshot → List Snapshot
  | [] => [snap]
  | x::xs => if x.name=snap.name then snap::xs else x::withSelf snap xs

def fetchSiblings : Prog (List Snapshot) := do
  if snap.groupID="" then pure [snap]
  else
    let items ← lift (← ask (.listSiblings snap.groupID))
    pure (withSelf snap items)

def maybeFlipSpec ( suspendIO takeSnapshot : Bool) : Prog Unit := do
  if snap.suspendIO = suspendIO ∧ snap.takeSnapshot=takeSnapshot then pure ()
  else lift (← ask (.patch snap.name (.flip suspendIO takeSnapshot)))

def flipGroup ( suspendIO takeSnapshot : Bool) : List Snapshot → Prog Unit
  | [] => pure ()
  | x::xs => do
    maybeFlipSpec x suspendIO takeSnapshot
    flipGroup suspendIO takeSnapshot xs

def suspendGroup : Prog Unit := flipGroup true false siblings

def abortGroup : Prog Unit := do
  ask (.abort snap.batch)
  flipGroup false false siblings

def stampFailedDisconnect (reason : String) : List Snapshot → Prog Unit
  | [] => pure ()
  | x::xs => do
    lift (← ask (.patch x.name (.failedDisconnect reason)))
    stampFailedDisconnect reason xs

def abortGroupWithReason (reason : String) : Prog Result := do
  abortGroup snap siblings
  stampFailedDisconnect reason siblings
  pure .none

def deadlineReason : String :=
  "snapshot aborted: suspend/take exceeded the 2m0s deadline; I/O resumed"

def notUpToDateReason (node consequence : String) : String :=
  "snapshot aborted: replica on node '"++node++"' is not UpToDate; "++consequence

def checkAbortConditions : Prog (Option Result) := do
  if anySiblingFailed siblings then
    abortGroup snap siblings
    pure (some .none)
  else if inSuspendPhase snap siblings then
    let now ← ask .now
    if suspendDeadlineExceeded snap now then
      let r ← abortGroupWithReason snap siblings deadlineReason
      pure (some r)
    else pure none
  else pure none

def openGroupSuspendBarrier : Prog Result := do
  if !groupAssembled snap siblings then pure ⟨false,groupAssembleRequeueAfter⟩
  else
    match ← allTargetedReplicasUpToDate siblings with
    | some node => abortGroupWithReason snap siblings (notUpToDateReason node "I/O not suspended")
    | none => do
      suspendGroup siblings
      pure .none

def commitPhase : Prog Result := do
  if snap.groupID≠"" then flipGroup next.suspendIO next.takeSnapshot siblings
  else maybeFlipSpec snap next.suspendIO next.takeSnapshot
  pure .none

def advancePhase : Prog Result := do
  if isPhase1Entry snap next ∧ snap.groupID≠"" then openGroupSuspendBarrier snap siblings
  else if isPhase2Promotion snap next then
    match ← allTargetedReplicasUpToDate siblings with
    | some node => abortGroupWithReason snap siblings (notUpToDateReason node "I/O resumed")
    | none => commitPhase snap siblings next
  else commitPhase snap siblings next

def requeueIfSuspended : Prog Result := do
  if inSuspendPhase snap siblings then
    let now ← ask .now
    pure ⟨false,suspendRequeueAfter snap now⟩
  else pure .none

def adoptedCreatedAt (snap : Snapshot) : Int := (Text.parseInt64 snap.adoptedCreatedAt).getD 0

def backfillAdoptedSnapshot : Prog Result := do
  if allNodesReady snap.nodeStatus snap.nodes then pure .none
  else
    lift (← ask (.patch snap.name (.backfill (adoptedCreatedAt snap))))
    pure .none

def orchestrate : Prog Result := do
  let siblings ← fetchSiblings snap
  match ← checkAbortConditions snap siblings with
  | some r => pure r
  | none =>
    if snap.nodes=[] then pure .none
    else if (nextPhase snap siblings).advance then
      advancePhase snap siblings (nextPhase snap siblings)
    else requeueIfSuspended snap siblings

/-- The controller's `SnapshotReconciler.Reconcile`. -/
def reconcile : Prog Result := do
  let name ← ask (.dequeue .controller)
  match ← ask (.getSnapshot name) with
  | .error .notFound => pure .none
  | .error e => throw e
  | .ok snap =>
    if snap.deletionTimestamp≠none then pure .none
    else if snap.adopted="true" ∧ snap.suspendIO=false then backfillAdoptedSnapshot snap
    else orchestrate snap

end Blockstor.Orchestration
