import Blockstor.Satellite.Seed
import Blockstor.Storage.Provider

namespace Blockstor.Satellite

open Framework Shell Storage

/-- A satellite's view of one storage pool, with the two in-memory tables of the restore path. A
restart of the process loses the tables and keeps the pool. -/
structure Node (α : Type) where
  pool : Storage.Pool α
  restoreBlankFallback : String → Int → Bool
  restoreSnapshotMissingTries : String → Int → Nat

inductive Fetched (α : Type)
  | stream (content : α)
  | notFound
  | failed

inductive NodeCmd (α : Type)
  | createVolume (vol : Volume)
  | restoreVolumeFromSnapshot (target : Volume) (src : Snapshot)
  | recvSnapshot (target : Volume) (stream : α)
  | fetch (srcRD snapName : String) (vol : Int)
  | recordRestoreBlankFallback (rd : String) (vol : Int) (blank : Bool)
  | bumpRestoreSnapshotMissing (rd : String) (vol : Int)
  | clearRestoreSnapshotMissing (rd : String) (vol : Int)

@[reducible] def NodeAnswer {α : Type} : NodeCmd α → Type
  | .createVolume _ => Except Storage.Err Unit
  | .restoreVolumeFromSnapshot _ _ => Except Storage.Err Unit
  | .recvSnapshot _ _ => Except Storage.Err Unit
  | .fetch _ _ _ => Fetched α
  | .recordRestoreBlankFallback _ _ _ => Unit
  | .bumpRestoreSnapshotMissing _ _ => Nat
  | .clearRestoreSnapshotMissing _ _ => Unit

inductive RestoreErr
  | remote (src prefixName : String)
  | malformed (src : String)
  | storage (e : Storage.Err)
  | requeue (src : String)
  | fetch (srcRD snapName : String)
  | recv (e : Storage.Err)
  deriving DecidableEq

abbrev NodeProg (α : Type) := Shell (@NodeAnswer α) RestoreErr

def restoreSnapshotMissingBudget : Nat := 5

section

variable {α : Type}

def act (c : NodeCmd α) : NodeProg α (NodeAnswer c) := call c

def lift (e : Except Storage.Err Unit) (wrap : Storage.Err → RestoreErr) : NodeProg α Unit :=
  match e with
  | .ok () => pure ()
  | .error e => throw (wrap e)

def createBlank (rd : String) (target : Volume) : NodeProg α Unit := do
  let _ ← act (.recordRestoreBlankFallback rd target.volumeNumber true)
  let created ← act (.createVolume target)
  lift created .storage

def crossNodeClone (provider : Provider) (target : Volume)
    (rd srcRD snapName : String) : NodeProg α Unit :=
  if !provider.isShipper then createBlank rd target
  else do
    match ← act (.fetch srcRD snapName target.volumeNumber) with
    | .notFound => createBlank rd target
    | .failed => throw (.fetch srcRD snapName)
    | .stream body =>
      match ← act (.recvSnapshot target body) with
      | .error e => throw (.recv e)
      | .ok () =>
        let _ ← act (.recordRestoreBlankFallback rd target.volumeNumber false)
        pure ()

/-- `<srcRD>:<snapName>`; a third part names another cluster and is refused. -/
def parseSourceSnapshot (src : String) : Except RestoreErr (String × String) :=
  match Text.cut ':' src with
  | none => .error (.malformed src)
  | some (srcRD,rest) =>
    if (Text.cut ':' rest).isSome ∧ srcRD≠"" then .error (.remote src srcRD)
    else if srcRD="" ∨ rest="" then .error (.malformed src)
    else .ok (srcRD,rest)

def materializeVolume (provider : Provider) (crossNodeFetcher : Bool) (rd : String)
    (vol : DesiredVolume) : NodeProg α Unit := do
  let target : Volume := ⟨rd,vol.volumeNumber,vol.sizeKib⟩
  if vol.sourceSnapshot="" then
    let created ← act (.createVolume target)
    lift created .storage
  else
    match parseSourceSnapshot vol.sourceSnapshot with
    | .error e => throw e
    | .ok (srcRD,snapName) =>
      match ← act (.restoreVolumeFromSnapshot target ⟨srcRD,snapName⟩) with
      | .ok () =>
        let _ ← act (.recordRestoreBlankFallback rd vol.volumeNumber false)
        act (.clearRestoreSnapshotMissing rd vol.volumeNumber)
      | .error (.command verb name) => throw (.storage (.command verb name))
      | .error (.notFound _) =>
        if crossNodeFetcher then crossNodeClone provider target rd srcRD snapName
        else
          let tries ← act (.bumpRestoreSnapshotMissing rd vol.volumeNumber)
          if tries ≤ restoreSnapshotMissingBudget then throw (.requeue vol.sourceSnapshot)
          else
            act (.clearRestoreSnapshotMissing rd vol.volumeNumber)
            createBlank rd target

structure CreateSnapshotRequest where
  resourceName : String
  snapshotName : String
  volumeNumbers : List Int
  deriving DecidableEq

structure CreateSnapshotResponse where
  ok : Bool
  terminal : Bool
  deriving DecidableEq

/-- The satellite's snapshot call; `provider` is that of the pool remembered for the resource. -/
def createSnapshot (provider : Option Storage.Provider) (req : CreateSnapshotRequest) :
    Shell (@Storage.Answer α) Empty CreateSnapshotResponse :=
  match provider with
  | none => pure ⟨false,true⟩
  | some provider => do
    match ← (Storage.createSnapshot provider ⟨req.resourceName,req.snapshotName⟩).attempt with
    | .ok () => pure ⟨true,false⟩
    | .error (.notFound _) => pure ⟨false,true⟩
    | .error (.command _ _) => pure ⟨false,false⟩

variable (provider : Storage.Provider) (blank ships : α → Prop)

def updateKey {β : Type} (f : String → Int → β) (rd : String) (vol : Int) (b : β) :
    String → Int → β :=
  fun r v => if r=rd ∧ v=vol then b else f r v

/-- How a node answers: a provider call runs the provider on the pool, and `ships` are the
contents a peer may send. -/
def NodeStep (s : Node α) (c : NodeCmd α) (answer : NodeAnswer c) (t : Node α) : Prop :=
  match c,answer with
  | .createVolume vol,answer => ∃q,t={s with pool := q} ∧
      Exec (Step blank) (createVolume provider vol) s.pool answer q
  | .restoreVolumeFromSnapshot target src,answer => ∃q,t={s with pool := q} ∧
      Exec (Step blank) (restoreVolumeFromSnapshot provider target src)
        s.pool answer q
  | .recvSnapshot target stream,answer => ∃q,t={s with pool := q} ∧
      Exec (Step blank) (recvSnapshot provider target stream) s.pool answer q
  | .fetch _ _ _,answer => t=s ∧ ∀body,answer=.stream body → ships body
  | .recordRestoreBlankFallback rd vol b,_ =>
      t={s with restoreBlankFallback := updateKey s.restoreBlankFallback rd vol b}
  | .bumpRestoreSnapshotMissing rd vol,answer => answer=s.restoreSnapshotMissingTries rd vol+1 ∧
      t={s with restoreSnapshotMissingTries :=
        updateKey s.restoreSnapshotMissingTries rd vol (s.restoreSnapshotMissingTries rd vol+1)}
  | .clearRestoreSnapshotMissing rd vol,_ =>
      t={s with restoreSnapshotMissingTries := updateKey s.restoreSnapshotMissingTries rd vol 0}

end

end Blockstor.Satellite
