import Blockstor.Store.Objects

namespace Blockstor.Orchestration

open Framework

structure NodeStatus where
  nodeName : String
  createTimestamp : Int
  ready : Bool
  suspendIOAcked : Bool
  failed : Bool
  deriving DecidableEq

def NodeStatus.fresh (node : String) : NodeStatus := ⟨node,0,false,false,false⟩

inductive StatusFlag
  | failed
  | failedDisconnect
  deriving DecidableEq

structure Condition where
  type : String
  status : String
  reason : String
  message : String
  lastTransitionTime : Nat
  deriving DecidableEq

/-- A Snapshot object. Every write gives it a new `resourceVersion`; a zero time is `none`, and an
annotation that is not there reads as the empty text. -/
structure Snapshot where
  name : String
  resourceVersion : Nat
  creationTimestamp : Option Nat
  deletionTimestamp : Option Nat
  finalizers : List String
  adopted : String
  adoptedCreatedAt : String
  resourceDefinitionName : String
  snapshotName : String
  nodes : List String
  volumeNumbers : List Int
  suspendIO : Bool
  takeSnapshot : Bool
  groupID : String
  groupSize : Int
  nodeStatus : List NodeStatus
  flags : List StatusFlag
  conditions : List Condition
  deriving DecidableEq

inductive Batch
  | single (name : String)
  | group (id : String)
  deriving DecidableEq

def Snapshot.batch (x : Snapshot) : Batch :=
  if x.groupID="" then .single x.name else .group x.groupID

/-- A replica as the consistency guard sees it. A volume without a reading has no disk state. -/
structure Resource where
  resourceDefinitionName : String
  nodeName : String
  flags : List Store.ResourceFlag
  volumes : List (Option Drbd.DiskState)
  deriving DecidableEq

section Rows

variable (entries : List NodeStatus) (node : String)

def firstRow : Option NodeStatus := entries.find? fun e => e.nodeName=node

def byNode : Option NodeStatus := entries.reverse.find? fun e => e.nodeName=node

def perNodeStatusSuspendIOAcked : Bool := (firstRow entries node).any NodeStatus.suspendIOAcked

def perNodeStatusReady : Bool :=
  (firstRow entries node).any fun e => e.ready && decide (e.createTimestamp≠0)

def hasNodeStatusEntry : Bool := entries.any fun e => e.nodeName=node

end Rows

/-- Change the first row of the node, or append a fresh one; `none` where `mutate` changes
nothing. -/
def upsertPerNodeStatusInPlace (node : String) (mutate : NodeStatus → Option NodeStatus) :
    List NodeStatus → Option (List NodeStatus)
  | [] => (mutate (.fresh node)).map fun e => [e]
  | e::es =>
    if e.nodeName=node then (mutate e).map fun e' => e'::es
    else (upsertPerNodeStatusInPlace node mutate es).map fun es' => e::es'

/-- Every row of the node becomes ready, or a new one is appended; the other fields are kept. -/
def upsertPerNodeStatus (entries : List NodeStatus) (node : String) (createTimestamp : Int) :
    List NodeStatus :=
  if hasNodeStatusEntry entries node then
    entries.map fun e => if e.nodeName=node then {e with ready := true, createTimestamp} else e
  else entries++[⟨node,createTimestamp,true,false,false⟩]

/-- Set the condition of a type; `none` where it is as wanted. -/
def setSnapshotCondition (now : Nat) (cond : Condition) : List Condition → Option (List Condition)
  | [] => some [{cond with lastTransitionTime := now}]
  | c::cs =>
    if c.type=cond.type then
      if c.status=cond.status ∧ c.reason=cond.reason ∧ c.message=cond.message then none
      else some ({c with
        status := cond.status
        reason := cond.reason
        message := cond.message
        lastTransitionTime := if c.status=cond.status then c.lastTransitionTime else now}::cs)
    else (setSnapshotCondition now cond cs).map fun cs' => c::cs'

/-- The writes that are retried on a conflict, as what they make of the object they replace. -/
inductive Patch
  | flip ( suspendIO takeSnapshot : Bool)
  | failedDisconnect (reason : String)
  | backfill (createdAt : Int)
  | suspendAcked (node : String)
  | suspendCleared (node : String)
  | failed (node : String)
  | ready (node : String) (createTimestamp : Int)
  deriving DecidableEq

def backfillRows (createdAt : Int) : List String → List NodeStatus → List NodeStatus
  | [],entries => entries
  | node::nodes,entries =>
    if hasNodeStatusEntry entries node then backfillRows createdAt nodes entries
    else backfillRows createdAt nodes (entries++[⟨node,createdAt,true,false,false⟩])

def abortCondition (reason : String) : Condition :=
  ⟨"SnapshotComplete","False","Aborted",reason,0⟩

namespace Patch

/-- The new object, or `none` where there is nothing to write. -/
def mutate (now : Nat) (x : Snapshot) : Patch → Option Snapshot
  | .flip suspendIO takeSnapshot =>
    if x.suspendIO = suspendIO ∧ x.takeSnapshot=takeSnapshot then none
    else some {x with suspendIO, takeSnapshot}
  | .failedDisconnect reason =>
    let flags := if .failedDisconnect∈x.flags then x.flags else x.flags++[.failedDisconnect]
    match setSnapshotCondition now (abortCondition reason) x.conditions with
    | some conditions => some {x with flags, conditions}
    | none => if .failedDisconnect∈x.flags then none else some {x with flags}
  | .backfill createdAt =>
    let nodeStatus := backfillRows createdAt x.nodes x.nodeStatus
    if nodeStatus=x.nodeStatus then none else some {x with nodeStatus}
  | .suspendAcked node =>
    (upsertPerNodeStatusInPlace node (fun e =>
      if e.suspendIOAcked then none else some {e with suspendIOAcked := true}) x.nodeStatus).map
        fun nodeStatus => {x with nodeStatus}
  | .suspendCleared node =>
    (upsertPerNodeStatusInPlace node (fun e =>
      if e.suspendIOAcked then some {e with suspendIOAcked := false} else none) x.nodeStatus).map
        fun nodeStatus => {x with nodeStatus}
  | .failed node =>
    let flags := if .failed∈x.flags then x.flags else x.flags++[.failed]
    match upsertPerNodeStatusInPlace node (fun e =>
      if e.failed then none else some {e with failed := true}) x.nodeStatus with
    | some nodeStatus => some {x with flags, nodeStatus}
    | none => if .failed∈x.flags then none else some {x with flags}
  | .ready node createTimestamp =>
    if perNodeStatusReady x.nodeStatus node then none
    else some {x with nodeStatus := upsertPerNodeStatus x.nodeStatus node createTimestamp}

end Patch

structure Wire where
  resourceName : String
  name : String
  nodes : List String
  volumeNumbers : List Int
  groupID : String
  groupSize : Int
  adopted : String
  adoptedCreatedAt : String
  deriving DecidableEq

/-- A snapshot on its own starts suspended; a member of a group waits for the others. The object
name and the version are the server's. -/
def wireToCRDSnapshot (name : String) (resourceVersion now : Nat) (w : Wire) : Snapshot where
  name := name
  resourceVersion := resourceVersion
  creationTimestamp := some (Store.rfc3339 now)
  deletionTimestamp := none
  finalizers := []
  adopted := w.adopted
  adoptedCreatedAt := w.adoptedCreatedAt
  resourceDefinitionName := w.resourceName
  snapshotName := w.name
  nodes := w.nodes
  volumeNumbers := w.volumeNumbers
  suspendIO := w.groupID=""
  takeSnapshot := false
  groupID := w.groupID
  groupSize := w.groupSize
  nodeStatus := []
  flags := []
  conditions := []

def Snapshot.Same (x y : Snapshot) : Prop :=
  x.name=y.name ∧ x.resourceDefinitionName=y.resourceDefinitionName ∧
    x.snapshotName=y.snapshotName ∧ x.nodes=y.nodes ∧ x.groupID=y.groupID ∧
    x.groupSize=y.groupSize

namespace Snapshot.Same

variable {x y z : Snapshot}

theorem refl (x : Snapshot) : x.Same x := ⟨rfl,rfl,rfl,rfl,rfl,rfl⟩

theorem trans (h : x.Same y) (h' : y.Same z) : x.Same z :=
  ⟨h.1.trans h'.1,h.2.1.trans h'.2.1,h.2.2.1.trans h'.2.2.1,h.2.2.2.1.trans h'.2.2.2.1,
    h.2.2.2.2.1.trans h'.2.2.2.2.1,h.2.2.2.2.2.trans h'.2.2.2.2.2⟩

theorem name (h : x.Same y) : x.name=y.name := h.1

theorem nodes (h : x.Same y) : x.nodes=y.nodes := h.2.2.2.1

theorem groupID (h : x.Same y) : x.groupID=y.groupID := h.2.2.2.2.1

theorem groupSize (h : x.Same y) : x.groupSize=y.groupSize := h.2.2.2.2.2

theorem batch (h : x.Same y) : x.batch=y.batch := by
  rw [Snapshot.batch,Snapshot.batch,h.groupID,h.name]

end Snapshot.Same

namespace Patch

variable (now : Nat) (x : Snapshot) (y : Snapshot) (p : Patch)

def setsFlags : Patch → Bool × Bool
  | .flip suspendIO takeSnapshot => ( suspendIO,takeSnapshot)
  | _ => ( x.suspendIO,x.takeSnapshot)

theorem mutate_shape (h : p.mutate now x=some y) :
    ∃nodeStatus flags conditions,y={x with
      suspendIO := (p.setsFlags x).1
      takeSnapshot := (p.setsFlags x).2
      nodeStatus, flags, conditions} := by
  cases p with
  | flip a b =>
    simp only [mutate] at h
    split at h
    · cases h
    · cases h
      exact ⟨_,_,_,rfl⟩
  | failedDisconnect reason =>
    simp only [mutate] at h
    split at h
    · cases h
      exact ⟨_,_,_,rfl⟩
    · split at h
      · cases h
      · cases h
        exact ⟨_,_,_,rfl⟩
  | backfill createdAt =>
    simp only [mutate] at h
    split at h
    · cases h
    · cases h
      exact ⟨_,_,_,rfl⟩
  | suspendAcked node =>
    obtain ⟨rows,_,rfl⟩ := Option.map_eq_some_iff.mp h
    exact ⟨_,_,_,rfl⟩
  | suspendCleared node =>
    obtain ⟨rows,_,rfl⟩ := Option.map_eq_some_iff.mp h
    exact ⟨_,_,_,rfl⟩
  | failed node =>
    simp only [mutate] at h
    split at h
    · cases h
      exact ⟨_,_,_,rfl⟩
    · split at h
      · cases h
      · cases h
        exact ⟨_,_,_,rfl⟩
  | ready node ts =>
    simp only [mutate] at h
    split at h
    · cases h
    · cases h
      exact ⟨_,_,_,rfl⟩

theorem mutate_same (h : p.mutate now x=some y) :
    y.Same x := by
  obtain ⟨_,_,_,rfl⟩ := p.mutate_shape now x y h
  exact .refl x

end Patch

end Blockstor.Orchestration
