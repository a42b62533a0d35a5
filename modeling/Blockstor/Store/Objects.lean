import Blockstor.Drbd.Status
import Blockstor.Framework.Keyed
import Blockstor.Framework.Machine
import Blockstor.Framework.Text

namespace Blockstor.Store

open Framework Shell Text

def second : Nat := 1000000000

def minute : Nat := 60*second

def rfc3339 (t : Nat) : Nat := t/second*second

/-- A mark `<token>@<RFC 3339 time>` on a snapshot. -/
structure Mark where
  token : Nat
  written : Nat
  deriving DecidableEq

structure VolumeDef where
  volumeNumber : Int
  sizeKib : Int
  deriving DecidableEq

structure SnapshotProps where
  snapshotDeleting : Option Mark
  cloneSnapshotReaping : Option Mark
  deriving DecidableEq

inductive MarkKind
  | deleting
  | reaping
  deriving DecidableEq

namespace SnapshotProps

def mark (props : SnapshotProps) : MarkKind → Option Mark
  | .deleting => props.snapshotDeleting
  | .reaping => props.cloneSnapshotReaping

def withMark (props : SnapshotProps) (mark : Option Mark) : MarkKind → SnapshotProps
  | .deleting => {props with snapshotDeleting := mark}
  | .reaping => {props with cloneSnapshotReaping := mark}

@[simp] theorem mark_withMark (props : SnapshotProps) (mark : Option Mark) (k : MarkKind) :
    (props.withMark mark k).mark k=mark := by
  cases k <;> rfl

end SnapshotProps

/-- A snapshot; `deleting` is its DELETE flag. -/
structure Snapshot where
  resourceName : String
  name : String
  volumeDefinitions : List VolumeDef
  props : SnapshotProps
  deleting : Bool
  deriving DecidableEq

def Snapshot.key (x : Snapshot) : List Char × List Char :=
  (fold x.resourceName,fold x.name)

inductive RollbackMark
  | inProgress
  | reapReplicas
  | rereadReplicas
  | snapshots
  | deleteDefinition
  | readSnapshots
  | mark
  | readAdoption
  | readFinished
  | unknown
  deriving DecidableEq

/-- The props of a definition the restore and rollback paths read. An empty restore marker reads
like an absent one; a `rollbackSince` that cannot be read is none. -/
structure DefinitionProps where
  restoreFromSnapshot : String
  restoreVolumes : Option String
  rollbackAbandoned : Option RollbackMark
  rollbackSince : Option Nat
  restoreAdopted : Option Nat
  deriving DecidableEq

def DefinitionProps.empty : DefinitionProps := ⟨"",none,none,none,none⟩

/-- A resource definition with its inline volumes; `deleting` is its DELETE flag, and `uid` tells it
from another one of the same name. -/
structure Definition where
  name : String
  uid : Nat
  props : DefinitionProps
  deleting : Bool
  volumes : List VolumeDef
  deriving DecidableEq

def Definition.key (d : Definition) : List Char := fold d.name

inductive ResourceFlag
  | delete
  | diskless
  | tieBreaker
  deriving DecidableEq

structure Volume where
  volumeNumber : Int
  diskState : Drbd.DiskState
  deriving DecidableEq

structure Replica where
  resourceName : String
  flags : List ResourceFlag
  volumes : List Volume
  deriving DecidableEq

inductive Withdrawal
  | gone
  | beingDeleted
  | reaping
  | deleting
  deriving DecidableEq

inductive Err
  | notFound
  | alreadyExists
  | unavailable
  | restoreUnfinished (rd : String)
  | restoreSourceInUse (rd : String)
  | restoreSourceWithdrawn (why : Withdrawal)
  | markNotMine
  | anotherReap
  | cloneSnapshotInUse (rd : String)
  | adoptedLeftoverRollingBack
  | rollbackYielded
  | rollbackAnswered
  | rollbackGone
  | rollbackMarkNotOurs
  | markReadBehind
  | rollbackMarkStuck (why : Err)
  | rollbackStopped (step : RollbackMark)
  deriving DecidableEq

def snapshotDeleteBudget : Nat := 30*second

def snapshotDeletingMarkTTL : Nat := 5*minute

def cloneSnapshotReapBudget : Nat := 30*second

def cloneSnapshotReapingMarkTTL : Nat := 5*minute

namespace MarkKind

def budget : MarkKind → Nat
  | .deleting => snapshotDeleteBudget
  | .reaping => cloneSnapshotReapBudget

def ttl : MarkKind → Nat
  | .deleting => snapshotDeletingMarkTTL
  | .reaping => cloneSnapshotReapingMarkTTL

/-- A mark is live for `ttl` from the time it carries; no mark is not. -/
def isLive (k : MarkKind) (mark : Option Mark) (now : Nat) : Bool :=
  mark.any fun m => now < m.written+k.ttl

end MarkKind

def deletingMarkIsLive (mark : Option Mark) (now : Nat) : Bool :=
  MarkKind.deleting.isLive mark now

def reapingMarkIsLive (mark : Option Mark) (now : Nat) : Bool :=
  MarkKind.reaping.isLive mark now

/-- The mutations handed to `PatchSnapshotProps`; the two removals differ in the mark only. -/
inductive SnapshotPatch
  | setDeleting (mark : Mark)
  | setReaping (mark : Mark)
  | dropMark (k : MarkKind) (mark : Mark)
  deriving DecidableEq

variable (props : DefinitionProps) (now : Nat)

def SnapshotPatch.mutate (props : SnapshotProps) : SnapshotPatch → Except Err SnapshotProps
  | .setDeleting mark => .ok (props.withMark (some mark) .deleting)
  | .setReaping mark =>
    -- a reap stands down where another one's live mark is
    if props.cloneSnapshotReaping≠none ∧ props.cloneSnapshotReaping≠some mark ∧
      reapingMarkIsLive props.cloneSnapshotReaping now then .error .anotherReap
    else .ok (props.withMark (some mark) .reaping)
  | .dropMark k mark =>
    if props.mark k≠some mark then .error .markNotMine else .ok (props.withMark none k)

def encodeRestoreVolumes (vols : List VolumeDef) : String :=
  String.intercalate "," (vols.map fun v => toString v.volumeNumber++"="++toString v.sizeKib)

def decodePair (pair : String) : Option VolumeDef := do
  let (number,size) ← cut '=' pair
  let n ← parseInt32 number
  let kib ← parseInt64 size
  return ⟨n,kib⟩

/-- `none` for no record and for one that does not parse. -/
def recordedRestoreVolumes : Option (List VolumeDef) := do
  let raw ← props.restoreVolumes
  if raw="" then return [] else (split ',' raw).mapM decodePair

def withRestoreMarker (snap : Snapshot) : DefinitionProps :=
  {props with
    restoreFromSnapshot := snap.resourceName++":"++snap.name
    restoreVolumes := some (encodeRestoreVolumes snap.volumeDefinitions)}

def markRollback (step : RollbackMark) (now : Nat) : DefinitionProps :=
  {props with
    rollbackAbandoned := some step
    rollbackSince := if step=.inProgress then some (rfc3339 now) else none}

def unmarkRollback : DefinitionProps :=
  {props with rollbackAbandoned := none, rollbackSince := none}

def staleRollbackAfter : Nat := 2*minute

def rollbackMarkStale : Bool :=
  props.rollbackAbandoned=some .inProgress ∧
    props.rollbackSince.any fun since => since+staleRollbackAfter < now

/-- The mutations handed to `PatchResourceDefinitionSpec`. -/
inductive DefinitionPatch
  | clearRestoreMarker (marker : String)
  | setRollbackMark (step : Option RollbackMark)
  | enterDestructive (step : RollbackMark)
  | releaseInProgress
  | takeOverStale (now : Nat)
  | claim (token : Nat) (snap : Option (List VolumeDef))
  deriving DecidableEq

/-- What a mutation makes of the props at time `now`, with the value its closure keeps. -/
def DefinitionPatch.mutate (props : DefinitionProps) :
    DefinitionPatch → Except Err (DefinitionProps × Bool)
  | .clearRestoreMarker marker =>
    if equalFold props.restoreFromSnapshot marker
    then .ok ({props with restoreFromSnapshot := ""},true) else .ok (props,true)
  | .setRollbackMark none => .ok (unmarkRollback props,true)
  | .setRollbackMark (some step) => .ok (markRollback props step now,true)
  | .enterDestructive step =>
    if props.rollbackAbandoned≠some .inProgress then .error .rollbackMarkNotOurs
    else .ok (markRollback props step now,true)
  | .releaseInProgress =>
    if props.rollbackAbandoned=some .inProgress then .ok (unmarkRollback props,true)
    else .ok (props,true)
  | .takeOverStale asked =>
    if props.rollbackAbandoned=none ∨ rollbackMarkStale props asked
    then .ok (unmarkRollback props,true) else .ok (props,false)
  | .claim token snap =>
    if props.rollbackAbandoned≠none then .error .adoptedLeftoverRollingBack
    else .ok ({props with
      restoreAdopted := some token
      restoreVolumes := (snap.map encodeRestoreVolumes).or props.restoreVolumes},true)

end Blockstor.Store
