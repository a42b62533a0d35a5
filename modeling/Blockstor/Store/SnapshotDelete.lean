import Blockstor.Store.Leftover

namespace Blockstor.Store

open Framework Shell

variable (ctx : Option Nat) (source srcRD snapshot snapName : String) (mark : Mark)

def uncachedSnapshot : Prog Snapshot := do
  let stored ← unlessMissing (← ask ctx (.getDefinition srcRD)) (pure srcRD) fun rd => pure rd.name
  let snaps ← lift (← ask ctx (.listSnapshots stored))
  lift (found (snaps.find? fun x => Text.equalFold x.name snapName))

def setDeletingMark (snap : Snapshot) (mark : Mark) : Prog Unit := do
  lift (← ask ctx (.patchSnapshotProps snap.resourceName snap.name (.setDeleting mark)))

def dropMark (k : MarkKind) (ctx : Option Nat) (srcRD snapName : String) (mark : Mark) :
    Prog Unit := do
  match ← ask ctx (.patchSnapshotProps srcRD snapName (.dropMark k mark)) with
  | .error .markNotMine => pure ()
  | answer => lift answer

def dropDeletingMark : Prog Unit :=
  dropMark .deleting ctx srcRD snapName mark

def dropReapingMark : Prog Unit :=
  dropMark .reaping ctx source snapshot mark

def keepMarked (drop : Prog Unit) (why : Err) : Prog Unit := do
  let _ ← drop.attempt
  throw why

def keepSnapshot (why : Err) :
    Prog Unit := keepMarked (dropDeletingMark ctx srcRD snapName mark) why

def setReapingMark : Prog Unit := do
  lift (← ask ctx (.patchSnapshotProps source snapshot (.setReaping mark)))

def keepCloneSnapshot (why : Err) :
    Prog Unit := keepMarked (dropReapingMark ctx source snapshot mark) why

def deleteOrKeep (keep : Err → Prog Unit) : Prog Unit := do
  match ← ask ctx (.deleteSnapshot srcRD snapName) with
  | .ok () => pure ()
  | .error .notFound => pure ()
  | .error e => keep e

def releaseRestoreMarker (rdName marker : String) : Prog Unit := do
  match ← (restoreMarkerClearRefusal ctx rdName).attempt with
  | .error (.restoreUnfinished _) => throw (.restoreSourceInUse rdName)
  | .error .notFound => pure ()
  | .error e => throw e
  | .ok () =>
    unlessMissing (← ask ctx (.patchDefinition rdName (.clearRestoreMarker marker))) (pure ())
      fun _ => pure ()

/-- The loop over the listed definitions: one whose marker names the snapshot and that is not being
deleted has to let go of it. -/
def releaseEach (ctx : Option Nat) (marker : String) : List Definition → Prog Unit
  | [] => pure ()
  | rd::rds =>
    if !Text.equalFold rd.props.restoreFromSnapshot marker then releaseEach ctx marker rds
    else if rd.deleting then releaseEach ctx marker rds
    else do
      releaseRestoreMarker ctx rd.name marker
      releaseEach ctx marker rds

def releaseRestoreSource : Prog Unit := do
  let rds ← lift (← ask ctx .listDefinitions)
  releaseEach ctx (srcRD++":"++snapName) rds

def deleteSnapshot : Prog Unit := do
  let ctx ← withTimeout snapshotDeleteBudget
  let snap ← uncachedSnapshot ctx srcRD snapName
  let token ← ask none .token
  let now ← ask none .now
  let mark : Mark := ⟨token,rfc3339 now⟩
  setDeletingMark ctx snap mark
  match ← (releaseRestoreSource ctx snap.resourceName snap.name).attempt with
  | .error e => keepSnapshot ctx snap.resourceName snap.name mark e
  | .ok () =>
    deleteOrKeep ctx snap.resourceName snap.name
      (keepSnapshot ctx snap.resourceName snap.name mark)

def restoredFrom (definitions : List Definition) (source snapshot : String) : List String :=
  (definitions.filter fun d =>
    Text.equalFold d.props.restoreFromSnapshot (source++":"++snapshot)).map Definition.name

def reapClonedSnapshot : Prog Unit :=
  if source="" ∨ snapshot="" then pure ()
  else do
    let ctx ← withTimeout cloneSnapshotReapBudget
    let now ← ask none .now
    let token ← ask none .token
    let mark : Mark := ⟨token,rfc3339 now⟩
    match ← (setReapingMark ctx source snapshot mark).attempt with
    | .error .notFound => pure ()
    | .error .anotherReap => pure ()
    | .error e => throw e
    | .ok () =>
      match ← ask ctx .listDefinitions with
      | .error e => keepCloneSnapshot ctx source snapshot mark e
      | .ok definitions =>
        match restoredFrom definitions source snapshot with
        | dependent::_ =>
          keepCloneSnapshot ctx source snapshot mark (.cloneSnapshotInUse dependent)
        | [] => deleteOrKeep ctx source snapshot (keepCloneSnapshot ctx source snapshot mark)

def restoreSourceWithdrawn (ctx : Option Nat) (source snapshot : String) : Prog Unit := do
  unlessMissing (← (uncachedSnapshot ctx source snapshot).attempt)
    (throw (.restoreSourceWithdrawn .gone)) fun snap =>
    if snap.deleting then throw (.restoreSourceWithdrawn .beingDeleted)
    else do
      let now ← ask none .now
      if reapingMarkIsLive snap.props.cloneSnapshotReaping now then
        throw (.restoreSourceWithdrawn .reaping)
      else if deletingMarkIsLive snap.props.snapshotDeleting now then
        throw (.restoreSourceWithdrawn .deleting)
      else pure ()

/-- A restore up to the point where it counts on its source: the snapshot is read, the definition
created with the marker, and the snapshot read back. -/
def materializeRestoredRD (target : String) : Prog Unit := do
  let snap ← lift (← ask none (.cachedSnapshot source snapshot))
  let uid ← lift (← ask none (.createDefinition target (withRestoreMarker .empty snap)))
  restoreSourceWithdrawn none snap.resourceName snap.name
  ask none (.reach (.restoreProceeds uid))

end Blockstor.Store
